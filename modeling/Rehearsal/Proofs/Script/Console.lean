import Rehearsal.Proofs.Run.Ledger
import Rehearsal.Proofs.Run.Mirror
import Rehearsal.Proofs.Script.Alike

/-!
# Console scripts on both interpreters

A console script that returns in a simulated environment with enough queued lines comes to the same
value on a host whose standard input holds these lines. The environment pops a queue and keeps
newest-first logs, the host moves through three streams; a relation between the two is kept by
every event of the run.
-/

namespace Rehearsal

open Text (CodePoint)

def newline : CodePoint := .char '\n'

/-- The requests of a console script: lines of the standard input, texts to the two outputs, and
what concerns assertions. -/
def Request.OnConsole : Request → Prop
  | .getLine handle => handle = .handle .stdin
  | .put handle text => (handle = .handle .stdout ∨ handle = .handle .stderr) ∧ ∃ w, text = .text w
  | .flush handle => handle = .handle .stdout ∨ handle = .handle .stderr
  | .record _ | .context => True
  | _ => False

def Event.OnConsole : Event → Prop
  | .asked r _ _ => r.OnConsole
  | _ => True

/-- What is written to a stream that holds nothing but texts, the newest first. -/
def written (texts : List Wording) : Stream := ⟨texts.flatMap fun w => w.points.reverse, []⟩

/-- The lines still to be read and the texts written so far, as an environment and a host keep
them. -/
structure ConsoleAgrees {σ : Type} (lines : List (List CodePoint)) (printed logged : List Wording)
    (e : Environment) (h : Host σ) : Prop where
  queue : e.consoleQueue = lines.map fun line => .text (.ofPoints line)
  whole : ∀ line ∈ lines, newline ∉ line
  consoleOut : e.consoleOut = printed.map .text
  printLog : e.printLog = logged.map fun w => (Handle.name .stderr, .text w)
  stdin : h.stdin.rest = lines.flatMap (· ++ [newline])
  stdout : h.stdout = written printed
  stderr : h.stderr = written logged
  assertions : h.assertions = e.assertions
  captured : e.captured = none
  terminals : h.terminals = []

/-- With lines for all reads to come, and nothing to come but what belongs on a console. -/
def ConsoleReady {σ : Type} (events : List Event) (e : Environment) (h : Host σ) : Prop :=
  (∃ lines printed logged, ConsoleAgrees lines printed logged e h ∧
    (events.flatMap Event.lines).length ≤ lines.length) ∧ ∀ event ∈ events, event.OnConsole

namespace Stream

theorem readLine_line {line more : List CodePoint} {s : Stream} (whole : newline ∉ line)
    (hr : s.rest = line ++ newline :: more) :
    s.readLine = some (line, ⟨newline :: line.reverse ++ s.before, more⟩) := by
  have inside : ∀ point ∈ line, decide (point ≠ .char '\n') = true := by
    intro point hp
    refine decide_eq_true ?_
    rintro rfl
    exact whole hp
  have taken : s.rest.takeWhile (· ≠ .char '\n') = line := by
    rw [hr, List.takeWhile_append_of_pos inside, List.takeWhile_cons]
    simp [newline]
  have some_left : s.rest.isEmpty = false := by simp [hr]
  have cut : line ++ newline :: more = (line ++ [newline]) ++ more := by simp
  have through : (line ++ [newline]).length = line.length + 1 := by simp
  simp only [readLine, some_left, Bool.false_eq_true, ↓reduceIte, taken]
  rw [hr, cut, ← through, List.take_left, List.drop_left]
  simp

theorem write_written (w : Wording) (texts : List Wording) :
    (written texts).write w.points = written (w :: texts) := by
  simp [write, written]

/-- What was written reads as the texts in the order in which they were written. -/
theorem contents_written (texts : List Wording) :
    (written texts).contents.points = texts.reverse.flatMap Wording.points := by
  simp [contents, written, List.reverse_flatMap, Function.comp_def]

end Stream

namespace Host

variable {σ : Type} {h : Host σ}

theorem getLine_stdin {line more : List CodePoint} (whole : newline ∉ line)
    (hr : h.stdin.rest = line ++ newline :: more) :
    h.getLine (.handle .stdin) = (.ok (.text (.ofPoints line)),
      { h with stdin := ⟨newline :: line.reverse ++ h.stdin.before, more⟩ }) := by
  have found : h.stream (.handle .stdin) = .ok ("stdin", h.stdin) := rfl
  have readable : h.checkReadable "stdin" = .ok () := by simp [checkReadable]
  simp only [getLine, withStream, found, still, andThen, readable, bind, Except.bind,
    Stream.readLine_line whole hr]
  rfl

theorem put_stdout (none : h.terminals = []) (w : Wording) :
    h.put (.handle .stdout) (.text w) =
      (.ok .none, { h with stdout := h.stdout.write w.points }) := by
  have found : h.stream (.handle .stdout) = .ok ("stdout", h.stdout) := rfl
  have file : h.isTerminal "stdout" = false := by simp [isTerminal, none]
  simp only [put, withStream, found, still, andThen, file, Bool.false_eq_true, ↓reduceIte]
  rfl

theorem put_stderr (none : h.terminals = []) (w : Wording) :
    h.put (.handle .stderr) (.text w) =
      (.ok .none, { h with stderr := h.stderr.write w.points }) := by
  have found : h.stream (.handle .stderr) = .ok ("stderr", h.stderr) := rfl
  have file : h.isTerminal "stderr" = false := by simp [isTerminal, none]
  simp only [put, withStream, found, still, andThen, file, Bool.false_eq_true, ↓reduceIte]
  rfl

end Host

/-- A request of a console has the same answer on both sides, which agree again afterwards. -/
theorem ConsoleReady.asked {σ : Type} {server : Responder} {m : Machine σ} {r : Request}
    {v : Value} {left : Aftermath} {rest : List Event} {e : Environment} {h : Host σ}
    (ready : ConsoleReady (.asked r v left :: rest) e h)
    (hr : r.simulate server e = .ok (v, left)) :
    ∃ t h', left = .environment t ∧ t.context = e.context ∧
      r.perform m e.context h = (.ok v, h') ∧ ConsoleReady rest t h' := by
  obtain ⟨⟨lines, printed, logged, agrees, enough⟩, requests⟩ := ready
  have here : r.OnConsole := requests _ List.mem_cons_self
  have later : ∀ event ∈ rest, event.OnConsole := fun event hm =>
    requests event (List.mem_cons_of_mem _ hm)
  cases r with
  | getLine handle =>
    obtain rfl : handle = .handle .stdin := here
    -- `enough` counts this read, so a line is left for it.
    cases lines with
    | nil => simp [Event.lines] at enough
    | cons line more =>
      have hq : e.consoleQueue = .text (.ofPoints line) :: more.map fun l => .text (.ofPoints l) :=
        agrees.queue
      have hs : h.stdin.rest = line ++ newline :: more.flatMap (· ++ [newline]) := by
        rw [agrees.stdin]
        simp
      simp only [Request.simulate, Environment.getLine_eq, hq, Except.map] at hr
      cases hr
      refine ⟨_, _, rfl, rfl,
        Host.getLine_stdin (agrees.whole line List.mem_cons_self) hs,
        ⟨more, printed, logged, ?_, ?_⟩, later⟩
      · exact { agrees with
          queue := rfl
          whole := fun l hl => agrees.whole l (List.mem_cons_of_mem _ hl)
          stdin := rfl }
      · rw [List.flatMap_cons, List.length_append, List.length_cons] at enough
        change 1 + _ ≤ _ at enough
        omega
  | put handle text =>
    obtain ⟨rfl | rfl, w, rfl⟩ := here
    · simp only [Request.simulate, Environment.put_stdout] at hr
      cases hr
      refine ⟨_, _, rfl, rfl, Host.put_stdout agrees.terminals w,
        ⟨lines, w :: printed, logged, ?_, enough⟩, later⟩
      exact { agrees with
        consoleOut := congrArg _ agrees.consoleOut
        stdout := by rw [agrees.stdout, Stream.write_written] }
    · simp only [Request.simulate, Environment.put_stderr] at hr
      cases hr
      refine ⟨_, _, rfl, rfl, Host.put_stderr agrees.terminals w,
        ⟨lines, printed, w :: logged, ?_, enough⟩, later⟩
      exact { agrees with
        printLog := congrArg _ agrees.printLog
        stderr := by rw [agrees.stderr, Stream.write_written] }
  | flush handle =>
    cases hr
    obtain rfl | rfl := here
    · exact ⟨e, h, rfl, rfl, rfl, ⟨lines, printed, logged, agrees, enough⟩, later⟩
    · exact ⟨e, h, rfl, rfl, rfl, ⟨lines, printed, logged, agrees, enough⟩, later⟩
  | record a =>
    cases hr
    refine ⟨_, _, rfl, rfl, rfl, ⟨lines, printed, logged, ?_, enough⟩, later⟩
    exact { agrees with assertions := congrArg (· ++ [a]) agrees.assertions }
  | context =>
    simp only [Request.simulate, Outcome.map_eq_ok, Outcome.bind_eq_ok, Outcome.pure_eq_ok] at hr
    obtain ⟨_, ⟨w, hw, rfl⟩, hr⟩ := hr
    cases hr
    refine ⟨e, h, rfl, rfl, ?_, ⟨lines, printed, logged, agrees, enough⟩, later⟩
    rw [Request.perform, hw]
    rfl
  | _ => exact here.elim

/-- An event that takes no line, and after which the two sides agree as before. -/
theorem ConsoleReady.quiet {σ : Type} {event : Event} {rest : List Event} {e t : Environment}
    {h : Host σ} (ready : ConsoleReady (event :: rest) e h) (silent : event.lines = [])
    (same : ∀ {lines printed logged}, ConsoleAgrees lines printed logged e h →
      ConsoleAgrees lines printed logged t h) : ConsoleReady rest t h := by
  obtain ⟨⟨lines, printed, logged, agrees, enough⟩, requests⟩ := ready
  rw [List.flatMap_cons, silent] at enough
  exact ⟨⟨lines, printed, logged, same agrees, enough⟩,
    fun event hm => requests event (List.mem_cons_of_mem _ hm)⟩

/-- A console is followed through every event of a run. -/
theorem consoleReady_follows {σ : Type} (server : Responder) (m : Machine σ) :
    Follows server m ConsoleReady where
  asked ready hr := ready.asked hr
  ticked ready tick := by
    obtain ⟨clock, _, rfl⟩ := Environment.advance_ok tick
    exact ⟨rfl, ready.quiet rfl fun agrees => { agrees with }⟩
  opened ready := ready.quiet rfl fun agrees => { agrees with }
  closed ready := ready.quiet rfl fun agrees => { agrees with }
  uncaptured ready := by
    obtain ⟨⟨_, _, _, agrees, _⟩, _⟩ := ready
    exact agrees.captured

namespace Script

/-- An environment with queued lines. -/
def linesQueued (session : Option String) (clientLocal default : Value)
    (lines : List (List CodePoint)) : Environment :=
  (Environment.start session clientLocal).queueConsole
    (lines.map fun line => .text (.ofPoints line)) default

/-- A host whose standard input holds lines, and whose streams are no terminals. -/
structure Serves {σ : Type} (h : Host σ) (lines : List (List CodePoint)) : Prop where
  stdin : h.stdin = ⟨[], lines.flatMap (· ++ [newline])⟩
  stdout : h.stdout = {}
  stderr : h.stderr = {}
  terminals : h.terminals = []

/-- A console script that returns in a simulation, with no more reads than there are lines, comes
to the same value, assertions and texts on a host. -/
theorem console_runs_agree (s : Script) (scope : Scope) (server : Responder)
    (session : Option String) (clientLocal default : Value) (lines : List (List CodePoint))
    (run : Run) (console : s.Console) (whole : ∀ line ∈ lines, newline ∉ line)
    (traced : (do
      let o ← s.build .simulated scope
      o.trace server (linesQueued session clientLocal default lines)) = .ok run)
    (requests : ∀ event ∈ run.events, event.OnConsole)
    (enough : (run.events.flatMap Event.lines).length ≤ lines.length) :
    ∃ o, s.build .host scope = .ok o ∧
      ∀ (σ : Type) (m : Machine σ) (h : Host σ), Serves h lines → ∃ t h',
        (do
          let o ← s.build .simulated scope
          o.simulate server (linesQueued session clientLocal default lines)) =
            .ok (run.value, .environment t) ∧
        o.perform m [] h = (.ok run.value, h') ∧
        h'.assertions = t.assertions ∧
        t.transcript.map Wording.points = .ok h'.stdout.contents.points ∧
        (Value.joined "" (t.printLog.reverse.map (·.2))).map Wording.points =
          .ok h'.stderr.contents.points := by
  obtain ⟨program, built⟩ := build_alike s scope console
  simp only [built, Outcome.bind_eq_ok, Outcome.map_eq_ok] at traced
  obtain ⟨_, ⟨p, rfl, rfl⟩, traced⟩ := traced
  have traced : p.trace server (linesQueued session clientLocal default lines) = .ok run := traced
  refine ⟨.program p, built .host, fun σ m h serves => ?_⟩
  have agrees : ConsoleAgrees lines [] [] (linesQueued session clientLocal default lines)
      { h with assertions := [] } :=
    { queue := rfl, whole, consoleOut := rfl, printLog := rfl
      stdin := by rw [serves.stdin]
      stdout := serves.stdout
      stderr := serves.stderr
      assertions := rfl, captured := rfl
      terminals := serves.terminals }
  have ready : ConsoleReady (run.events ++ []) (linesQueued session clientLocal default lines)
      { h with assertions := [] } := by
    rw [List.append_nil]
    exact ⟨⟨lines, [], [], agrees, enough⟩, requests⟩
  obtain ⟨t, h', ht, _, performed, ⟨rest, printed, logged, agreed, _⟩, _⟩ :=
    p.perform_mirrors (consoleReady_follows server m) traced ready
  have returned : p.simulate server (linesQueued session clientLocal default lines) =
      .ok (run.value, .environment t) := by
    rw [← p.trace_result, traced, Except.map, Run.result, ht]
  refine ⟨t, h', ?_, performed, agreed.assertions, ?_, ?_⟩
  · rw [built .simulated]
    exact returned
  · rw [Environment.transcript, agreed.consoleOut, ← List.map_reverse, Value.joined_points,
      agreed.stdout, Stream.contents_written]
    exact ⟨_, rfl, rfl⟩
  · rw [agreed.printLog, agreed.stderr, Stream.contents_written, Value.joined_points]
    refine ⟨logged.reverse, ?_, rfl⟩
    rw [← List.map_reverse, List.map_map]
    rfl

/-- Reads a line and writes it to the standard output. -/
def echoing : Script :=
  .bind (.action (.getLine (.value (.handle .stdin)))) "line"
    (.action (.put (.value (.handle .stdout)) (.named "line")))

def greeting : List (List CodePoint) := [[.char 'h', .char 'i']]

theorem echoing_build (i : Interpreter) :
    ∃ next, echoing.build i ⟨[], []⟩ =
        .ok (.program (.bind (.ask (.getLine (.handle .stdin))) next)) ∧
      ∀ v, next v = .put .stdout v := by
  cases i with
  | simulated => exact ⟨_, rfl, fun _ => rfl⟩
  | host => exact ⟨_, rfl, fun _ => rfl⟩

theorem echoing_runs_agree :
    echoing.Console ∧ ∃ run,
      (do
        let o ← echoing.build .simulated ⟨[], []⟩
        o.trace .unreachable (linesQueued none .none .none greeting)) = .ok run ∧
      (∀ event ∈ run.events, event.OnConsole) ∧
      (run.events.flatMap Event.lines).length ≤ greeting.length ∧
      ∃ o, echoing.build .host ⟨[], []⟩ = .ok o ∧
        ∀ (σ : Type) (m : Machine σ) (h : Host σ), Serves h greeting →
          ∃ h', o.perform m [] h = (.ok run.value, h') := by
  have console : echoing.Console := ⟨trivial, trivial⟩
  have whole : ∀ line ∈ greeting, newline ∉ line := by decide
  have traced : ∃ run,
      (do
        let o ← echoing.build .simulated ⟨[], []⟩
        o.trace .unreachable (linesQueued none .none .none greeting)) = .ok run ∧
      (∀ event ∈ run.events, event.OnConsole) ∧
      (run.events.flatMap Event.lines).length ≤ greeting.length := by
    obtain ⟨next, built, reached⟩ := echoing_build .simulated
    simp only [built, reached, Bind.bind, Except.bind, Operand.trace, Operand.require,
      Program.trace, Program.put, Request.simulate, Environment.put_stdout]
    refine ⟨_, rfl, ?_, by decide⟩
    refine List.forall_mem_cons.mpr ⟨rfl, List.forall_mem_cons.mpr ⟨trivial, ?_⟩⟩
    exact List.forall_mem_cons.mpr ⟨⟨Or.inl rfl, _, rfl⟩, List.forall_mem_nil _⟩
  obtain ⟨run, traced, requests, enough⟩ := traced
  obtain ⟨o, built, performed⟩ := console_runs_agree echoing ⟨[], []⟩ .unreachable none .none .none
    greeting run console whole traced requests enough
  refine ⟨console, run, traced, requests, enough, o, built, fun σ m h serves => ?_⟩
  obtain ⟨_, h', _, hp, _⟩ := performed σ m h serves
  exact ⟨h', hp⟩

end Script

end Rehearsal
