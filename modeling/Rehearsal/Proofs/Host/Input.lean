import Mathlib.Data.List.TakeWhile
import Rehearsal.Proofs.Host.Turns
import Rehearsal.Proofs.Run.Scope
import Rehearsal.Proofs.Script.Console

/-!
# The standard input of a host

Characters and lines are read from the front of one text. A line is read together with its end,
which is not part of what the reader gets; only the last line may lack one. Counted with these ends,
what was read so far and what is left are at every point the text that there was at the start,
whatever else the host did in between. Only where nothing is left does a read fail, and then it
takes nothing.
-/

namespace Rehearsal

open Text (CodePoint)

/-! ## Lines of a text -/

/-- A text is empty, or starts with a line that has an end, or is a line without an end. -/
theorem line_cases (text : List CodePoint) :
    text = [] ∨ (∃ line more, newline ∉ line ∧ text = line ++ newline :: more) ∨
      (text ≠ [] ∧ newline ∉ text) := by
  by_cases ended : newline ∈ text
  · obtain ⟨line, more, split, whole⟩ := List.eq_append_cons_of_mem ended
    exact .inr (.inl ⟨line, more, whole, split⟩)
  · by_cases empty : text = []
    · exact .inl empty
    · exact .inr (.inr ⟨empty, ended⟩)

/-- The lines of a text. An end of line at the end of the text does not start another line. -/
def linesOf (text : List CodePoint) : List (List CodePoint) :=
  let pieces := text.splitOn newline
  if pieces.getLast? = some [] then pieces.dropLast else pieces

theorem linesOf_nil : linesOf [] = [] := rfl

theorem no_newline {line : List CodePoint} (whole : newline ∉ line) :
    ∀ point ∈ line, (point == newline) = false := by
  intro point inside
  rw [beq_eq_false_iff_ne]
  rintro rfl
  exact whole inside

theorem linesOf_ended {line : List CodePoint} (whole : newline ∉ line) (more : List CodePoint) :
    linesOf (line ++ newline :: more) = line :: linesOf more := by
  have split : (line ++ newline :: more).splitOn newline = line :: more.splitOn newline := by
    rw [List.splitOn_eq_splitOnP, List.splitOn_eq_splitOnP,
      List.splitOnP_append_cons_of_forall_mem (no_newline whole) newline (beq_self_eq_true newline)]
  have some_piece : more.splitOn newline ≠ [] := List.splitOn_ne_nil newline more
  rw [linesOf, linesOf, split, List.getLast?_cons_of_ne_nil some_piece,
    List.dropLast_cons_of_ne_nil some_piece]
  split <;> rfl

theorem linesOf_unended {line : List CodePoint} (some_left : line ≠ []) (whole : newline ∉ line) :
    linesOf line = [line] := by
  have split : line.splitOn newline = [line] := by
    rw [List.splitOn_eq_splitOnP, List.splitOnP_eq_singleton (no_newline whole)]
  rw [linesOf, split]
  simp [some_left]

example : linesOf ("ab\n\ncd\n".toList.map .char) =
    ["ab".toList.map .char, [], "cd".toList.map .char] := by decide

/-! ## Reads from a stream -/

namespace Stream

theorem readLine_unended {s : Stream} (some_left : s.rest ≠ []) (whole : newline ∉ s.rest) :
    s.readLine = some (s.rest, ⟨s.rest.reverse ++ s.before, []⟩) := by
  have inside : ∀ point ∈ s.rest, decide (point ≠ .char '\n') = true := by
    intro point hp
    refine decide_eq_true ?_
    rintro rfl
    exact whole hp
  have taken : s.rest.takeWhile (· ≠ .char '\n') = s.rest := List.takeWhile_eq_self_iff.mpr inside
  have past : s.rest.length ≤ s.rest.length + 1 := Nat.le_succ _
  rw [readLine, if_neg (by simpa using some_left), taken]
  simp only [List.take_of_length_le past, List.drop_of_length_le past]

end Stream

namespace Request

/-- Whether the request reads the standard input. -/
def readsInput : Request → Bool
  | getChar (.handle h) | getLine (.handle h) => h == .stdin
  | _ => false

/-- Whether the request writes to the standard input. -/
def writesInput : Request → Bool
  | put (.handle h) _ => h == .stdin
  | _ => false

theorem reads_cases {r : Request} (reads : r.readsInput = true) :
    r = getChar (.handle .stdin) ∨ r = getLine (.handle .stdin) := by
  cases r with
  | getChar handle =>
    cases handle with
    | handle h =>
      obtain rfl : h = .stdin := by simpa [readsInput] using reads
      exact .inl rfl
    | _ => cases reads
  | getLine handle =>
    cases handle with
    | handle h =>
      obtain rfl : h = .stdin := by simpa [readsInput] using reads
      exact .inr rfl
    | _ => cases reads
  | _ => cases reads

/-- What a read takes from a stream; nothing at the end. -/
def take? (s : Stream) : Request → Option (List CodePoint × Stream)
  | getChar _ => s.readChar.map fun (point, s) => ([point], s)
  | getLine _ => s.readLine
  | _ => none

/-- What a read that returns a text has consumed of what there was to read: the text, and the end of
a line that has one. -/
def piece (unread text : List CodePoint) : Request → List CodePoint
  | getLine _ => text ++ if newline ∈ unread then [newline] else []
  | _ => text

/-- A text that a read may return. -/
def Returns (text : List CodePoint) : Request → Prop
  | getChar _ => text.length = 1
  | getLine _ => newline ∉ text
  | _ => False

/-- A read takes nothing if there is nothing. Otherwise, what it takes and what it leaves are what
there was. -/
theorem take?_cases {r : Request} (reads : r.readsInput = true) (s : Stream) :
    (s.rest = [] ∧ r.take? s = none) ∨
      ∃ text t, s.rest ≠ [] ∧ r.take? s = some (text, t) ∧ r.Returns text ∧
        s.rest = r.piece s.rest text ++ t.rest := by
  obtain ⟨before, rest⟩ := s
  obtain rfl | rfl := reads_cases reads
  · cases rest with
    | nil => exact .inl ⟨rfl, rfl⟩
    | cons point rest => exact .inr ⟨[point], _, nofun, rfl, rfl, rfl⟩
  · obtain rfl | ⟨line, more, whole, rfl⟩ | ⟨some_left, whole⟩ := line_cases rest
    · exact .inl ⟨rfl, rfl⟩
    · refine .inr ⟨line, _, by simp, Stream.readLine_line whole rfl, whole, ?_⟩
      have ended : newline ∈ line ++ newline :: more := by simp
      simp [piece, ended]
    · refine .inr ⟨rest, _, some_left, Stream.readLine_unended some_left whole, whole, ?_⟩
      simp [piece, whole]

end Request

/-! ## Requests -/

theorem Value.name_stdin {v : Value} (named : v.name = .ok "stdin") : v = .handle .stdin := by
  cases v with
  | handle h =>
    obtain ⟨name⟩ := h
    cases named
    rfl
  | text w =>
    cases w with
    | verdict w => cases w <;> exact absurd (Except.ok.inj named) (by decide)
    | _ => cases named
  | _ => cases named

namespace Host

variable {σ : Type}

theorem stream_stdin (h : Host σ) : h.stream (.handle .stdin) = .ok ("stdin", h.stdin) := rfl

theorem checkReadable_stdin (h : Host σ) : h.checkReadable "stdin" = .ok () := by
  simp [checkReadable]

theorem perform_read (m : Machine σ) (context : List Value) {r : Request}
    (reads : r.readsInput = true) (h : Host σ) :
    r.perform m context h =
      match r.take? h.stdin with
      | none => (.error (endOfInput "stdin"), h)
      | some (text, s) => (.ok (.text (.ofPoints text)), { h with stdin := s }) := by
  obtain rfl | rfl := Request.reads_cases reads
  · simp only [Request.perform, getChar, withStream, stream_stdin, still, andThen,
      checkReadable_stdin, bind, Except.bind, Request.take?]
    cases h.stdin.readChar with
    | none => rfl
    | some taken => rfl
  · simp only [Request.perform, getLine, withStream, stream_stdin, still, andThen,
      checkReadable_stdin, bind, Except.bind, Request.take?]
    cases h.stdin.readLine with
    | none => rfl
    | some taken => rfl

theorem stream_named {handle : Value} {name : String} {s : Stream} {h : Host σ}
    (found : h.stream handle = .ok (name, s)) : handle.name = .ok name := by
  cases named : handle.name with
  | error e =>
    rw [stream, named] at found
    cases found
  | ok n =>
    rw [stream, named] at found
    simp only [bind, Except.bind] at found
    split at found
    · cases found
      rfl
    · cases found

theorem setStream_stdin {name : String} (other : name ≠ "stdin") (s : Stream) (h : Host σ) :
    (h.setStream name s).stdin = h.stdin := by
  simp only [setStream, other, ↓reduceIte]
  split
  · rfl
  · split <;> rfl

/-- Another stream is used without touching the standard input. -/
theorem withStream_stdin {handle : Value} (other : handle ≠ .handle .stdin)
    (use : String → Stream → Outcome (Value × Stream)) (h : Host σ) :
    (h.withStream handle use).2.stdin = h.stdin := by
  unfold withStream
  cases found : h.stream handle with
  | error e => rfl
  | ok taken =>
    obtain ⟨name, s⟩ := taken
    have named : name ≠ "stdin" := by
      rintro rfl
      exact other (Value.name_stdin (stream_named found))
    change (andThen (h.still (use name s)) _).2.stdin = h.stdin
    cases use name s with
    | error e => rfl
    | ok left => exact setStream_stdin named left.2 h

theorem stdin_backdrop (s : Stream) : Backdrop fun h : Host σ => h.stdin = s where
  world _ hs := hs
  echo _ _ hs := hs
  cookies _ _ hs := hs

theorem clientFor_stdin (session : Value) (h : Host σ) :
    (h.clientFor session).2.stdin = h.stdin := by
  cases session with
  | none =>
    change h.ownClient.2.stdin = h.stdin
    unfold ownClient
    split <;> rfl
  | _ => rfl

/-- What neither reads nor writes the standard input leaves it alone. -/
theorem perform_apart (m : Machine σ) (context : List Value) {r : Request}
    (unread : r.readsInput = false) (unwritten : r.writesInput = false) (h : Host σ) :
    (r.perform m context h).2.stdin = h.stdin := by
  cases r with
  | getChar handle =>
    refine withStream_stdin ?_ _ h
    rintro rfl
    cases unread
  | getLine handle =>
    refine withStream_stdin ?_ _ h
    rintro rfl
    cases unread
  | put handle text =>
    refine withStream_stdin ?_ _ h
    rintro rfl
    cases unwritten
  | _ =>
    exact Request.perform_keeps_apart (stdin_backdrop h.stdin) m context _ not_false rfl
      (fun _ session _ => clientFor_stdin session h) (fun _ => rfl) fun _ _ => rfl

theorem close_stdin (h : Host σ) : h.close.stdin = h.stdin := by
  have sessions (clients : List Nat) (u : Host σ) :
      (clients.foldl closeClient u).stdin = u.stdin := by
    induction clients generalizing u with
    | nil => rfl
    | cons client rest ih => exact ih (u.closeClient client)
  unfold close
  cases h.defaultClient with
  | none => exact sessions h.sessions h
  | some client => exact sessions h.sessions h

/-! ## Acts -/

/-- Whether the act writes to the standard input. -/
def Act.writesInput : Act → Bool
  | .performed _ r _ => r.writesInput
  | _ => false

/-- What an act consumes of what there is to read. -/
def Act.piece (unread : List CodePoint) : Act → List CodePoint
  | .performed _ r (.ok (.text w)) => if r.readsInput then r.piece unread w.points else []
  | _ => []

theorem Act.piece_apart {r : Request} (apart : r.readsInput = false) (context : List Value)
    (outcome : Outcome Value) (unread : List CodePoint) :
    piece unread (.performed context r outcome) = [] := by
  cases outcome with
  | error e => rfl
  | ok v =>
    cases v with
    | text w => rw [piece, apart, if_neg Bool.false_ne_true]
    | _ => rfl

/-- What acts consume, one after the other. -/
def consumed (m : Machine σ) : List Act → Host σ → List CodePoint
  | [], _ => []
  | act :: rest, h => act.piece h.stdin.rest ++ consumed m rest (act.apply m h)

/-- What an act consumes and what it leaves are what there was to read. -/
theorem Act.apply_consumes (m : Machine σ) {act : Act} (unwritten : act.writesInput = false)
    {h : Host σ} (told : Told m [act] h) :
    h.stdin.rest = act.piece h.stdin.rest ++ (act.apply m h).stdin.rest := by
  cases act with
  | began => rfl
  | released => exact congrArg Stream.rest (close_stdin h).symm
  | performed context r outcome =>
    obtain ⟨rfl, -⟩ := told
    cases reads : r.readsInput with
    | true =>
      have performed := perform_read m context reads h
      obtain ⟨-, nothing⟩ | ⟨text, t, -, taken, -, split⟩ := Request.take?_cases reads h.stdin
      · rw [nothing] at performed
        simp only [apply, performed, piece, List.nil_append]
      · rw [taken] at performed
        simp only [apply, performed, piece, reads, ↓reduceIte, Wording.points_ofPoints]
        exact split
    | false =>
      have apart := perform_apart m context reads unwritten h
      rw [piece_apart reads, apply, apart, List.nil_append]

theorem after_consumes (m : Machine σ) {acts : List Act} {h : Host σ} (told : Told m acts h)
    (unwritten : ∀ act ∈ acts, act.writesInput = false) :
    h.stdin.rest = consumed m acts h ++ (after m acts h).stdin.rest := by
  induction acts generalizing h with
  | nil => rfl
  | cons act rest ih =>
    obtain ⟨first, later⟩ := (told_append m [act] rest h).mp told
    obtain ⟨here, there⟩ := List.forall_mem_cons.mp unwritten
    have left : (act.apply m h).stdin.rest = _ := ih later there
    rw [consumed, List.append_assoc, after_cons, ← left]
    exact act.apply_consumes m here first

/-! ## Reads among acts -/

/-- The fault at the end of the standard input. -/
def inputEnded : Fault := ⟨.endOfInput, "end of input", "stdin"⟩

/-- What comes of a read at a host. -/
structure ReadAt (m : Machine σ) (context : List Value) (r : Request) (outcome : Outcome Value)
    (h : Host σ) : Prop where
  /-- It fails where nothing is left, and only there. -/
  ended : outcome = .error (.fault inputEnded) ↔ h.stdin.rest = []
  /-- Then it takes nothing. -/
  untouched : h.stdin.rest = [] → (r.perform m context h).2 = h
  /-- Otherwise it gets one character, or a line without its end. -/
  returned : h.stdin.rest ≠ [] → ∃ text, outcome = .ok (.text (.ofPoints text)) ∧ r.Returns text
  /-- In an attempt, the end is a failed result if the attempt covers it. -/
  attempted : ∀ kind, (Program.attempt (.ask r) kind).perform m context h =
    match outcome with
    | .ok v => (.ok (.success v), (r.perform m context h).2)
    | .error e =>
      (if kind.covers .endOfInput then .ok (.failure (.fault inputEnded)) else .error e, h)

theorem readAt (m : Machine σ) (context : List Value) {r : Request} (reads : r.readsInput = true)
    (h : Host σ) : ReadAt m context r (r.perform m context h).1 h := by
  have performed := perform_read m context reads h
  obtain ⟨nothing, none⟩ | ⟨text, t, something, taken, returns, -⟩ :=
    Request.take?_cases reads h.stdin
  · rw [none] at performed
    rw [performed]
    refine ⟨⟨fun _ => nothing, fun _ => rfl⟩, fun _ => congrArg Prod.snd performed,
      fun some_left => absurd nothing some_left, fun kind => ?_⟩
    rw [Program.perform, Program.perform, performed]
    change (if kind.covers .endOfInput then _ else _) = _
    split <;> rfl
  · rw [taken] at performed
    rw [performed]
    refine ⟨⟨nofun, fun nothing => absurd nothing something⟩,
      fun nothing => absurd nothing something, fun _ => ⟨text, rfl, returns⟩, fun kind => ?_⟩
    rw [Program.perform, Program.perform, performed]
    rfl

/-- What is known of the standard input through acts. -/
structure InputAccounted (m : Machine σ) (acts : List Act) (start : Host σ) : Prop where
  /-- At every point, what was consumed and what is left are what there was to read. -/
  conserved : ∀ before rest, acts = before ++ rest →
    start.stdin.rest = consumed m before start ++ (after m before start).stdin.rest
  read : ∀ before context r outcome rest, acts = before ++ .performed context r outcome :: rest →
    r.readsInput = true → ReadAt m context r outcome (after m before start)

theorem after_inputAccounted (m : Machine σ) {acts : List Act} {start : Host σ}
    (told : Told m acts start) (unwritten : ∀ act ∈ acts, act.writesInput = false) :
    InputAccounted m acts start where
  conserved before rest split := by
    subst split
    refine after_consumes m ((told_append m before rest start).mp told).1 fun act inside => ?_
    exact unwritten act (List.mem_append_left rest inside)
  read before context r outcome rest split reads := by
    subst split
    rw [told.outcome]
    exact readAt m context reads _

/-- A run that reads a line. -/
def lineTurn (context : List Value) : Turn :=
  .run (.program (.ask (.getLine (.handle .stdin)))) context

theorem outcomes_lineTurn (m : Machine σ) (context : List Value) (rest : List Turn) (h : Host σ) :
    outcomes m (lineTurn context :: rest) h =
      match h.stdin.readLine with
      | none => .error (.fault inputEnded) :: outcomes m rest { h with assertions := [] }
      | some (line, stdin) =>
        .ok (.text (.ofPoints line)) :: outcomes m rest { h with assertions := [], stdin } := by
  have performed : (Request.getLine (.handle .stdin)).perform m context
      { h with assertions := [] } =
      match h.stdin.readLine with
      | none => _
      | some (line, s) => _ := perform_read m context rfl { h with assertions := [] }
  change ((Request.getLine (.handle .stdin)).perform m context _).1 ::
    outcomes m rest ((Request.getLine (.handle .stdin)).perform m context _).2 = _
  rw [performed]
  cases h.stdin.readLine with
  | none => rfl
  | some taken => rfl

/-- Lines read one after the other are those of the text; then the input has ended. -/
theorem outcomes_lines (m : Machine σ) (context : List Value) (count : Nat) (h : Host σ) :
    outcomes m (List.replicate count (lineTurn context)) h =
      supply (.error (.fault inputEnded))
        ((linesOf h.stdin.rest).map fun line => .ok (.text (.ofPoints line))) count := by
  induction count generalizing h with
  | zero => simp [outcomes, supply]
  | succ count ih =>
    rw [List.replicate_succ, outcomes_lineTurn, supply_succ]
    obtain nothing | ⟨line, more, whole, split⟩ | ⟨some_left, whole⟩ := line_cases h.stdin.rest
    · have none : h.stdin.readLine = .none := by
        rw [Stream.readLine, nothing]
        rfl
      simp only [none, ih, nothing, linesOf_nil]
      rfl
    · simp only [Stream.readLine_line whole split, ih, split, linesOf_ended whole]
      rfl
    · simp only [Stream.readLine_unended some_left whole, ih, linesOf_nil,
        linesOf_unended some_left whole]
      rfl

/-- Whatever is done with a host, as long as nothing is written to its standard input, what reads
consume and what is left are the text that there was, and a read fails only at its end. So lines
read one after the other are the lines of the text. -/
theorem input_accounted (m : Machine σ) (h : Host σ) :
    (∀ turns, (∀ act ∈ acts m turns h, act.writesInput = false) →
      InputAccounted m (acts m turns h) h) ∧
    ∀ context count, outcomes m (List.replicate count (lineTurn context)) h =
      supply (.error (.fault inputEnded))
        ((linesOf h.stdin.rest).map fun line => .ok (.text (.ofPoints line))) count :=
  ⟨fun turns => after_inputAccounted m (acts_lead m turns h).2,
    fun context count => outcomes_lines m context count h⟩

/-- Three lines, of which the second one is empty and the last one has no end. -/
def typed : Host Unit := { world := (), stdin := .ofText "ab\n\ncd" }

/-- A character, the rest of its line, and one line more than there are. -/
def readings : List Turn :=
  [.run (.program (.ask (.getChar (.handle .stdin)))) [], lineTurn [], .close,
    .run (.program (.attempt (.ask (.getLine (.handle .stdin))) .general)) [], lineTurn [],
    lineTurn []]

theorem typed_input_accounted :
    (∀ act ∈ acts Machine.bare readings typed, act.writesInput = false) ∧
      consumed Machine.bare (acts Machine.bare readings typed) typed = typed.stdin.rest := by
  have unwritten : ∀ act ∈ acts Machine.bare readings typed, act.writesInput = false := by decide
  have accounted := (input_accounted Machine.bare typed).1 readings unwritten
  have read := accounted.conserved _ [] (List.append_nil _).symm
  have nothing : (after Machine.bare (acts Machine.bare readings typed) typed).stdin.rest = [] := by
    decide
  refine ⟨unwritten, ?_⟩
  rw [read, nothing, List.append_nil]

end Host

end Rehearsal
