import Rehearsal.Proofs.Run.Trail
import Rehearsal.Proofs.Value.Joined

/-!
# The ledger of a run

A run takes lines and files from the front of the queues of an environment and adds what it writes
and saves to its logs. The ledger accounts for every such event in the order of execution: nothing
that is queued or written is lost, comes twice or changes places, and an operation that fails says
so and takes nothing. Each entry is proved along the trail of the run, from what one step does.
-/

namespace Rehearsal

/-- What a queue gives in `n` turns; once it is empty it gives the default for ever. -/
def supply {α : Type} (default : α) (queue : List α) (n : Nat) : List α :=
  queue.take n ++ List.replicate (n - queue.length) default

theorem supply_succ {α : Type} (default : α) (queue : List α) (n : Nat) :
    supply default queue (n + 1) = queue.headD default :: supply default (queue.drop 1) n := by
  cases queue <;> simp [supply, List.replicate_succ]

/-- A request for a file, with its answer and what it left behind. -/
structure Load where
  path : Value
  value : Value
  left : Aftermath

structure Save where
  path : Value
  contents : Value
  value : Value
  left : Aftermath

namespace Event

def lines : Event → List Value
  | .asked (.getLine _) v _ => [v]
  | _ => []

def loads : Event → List Load
  | .asked (.loadFile path) v left => [⟨path, v, left⟩]
  | _ => []

def saves : Event → List Save
  | .asked (.saveFile path contents) v left => [⟨path, contents, v, left⟩]
  | _ => []

/-- The handles and the texts that are written to them. -/
def writes : Event → List (Value × Value)
  | .asked (.put handle text) _ _ => [(handle, text)]
  | _ => []

end Event

def toStdout (write : Value × Value) : Bool := write.1.same (.handle .stdout)

/-- A write with the name of its handle. -/
def named (write : Value × Value) : Outcome (String × Value) :=
  write.1.name.map (·, write.2)

/-- A load from a queue of contents takes its front; an empty queue gives nothing and leaves the
fault behind. -/
def Load.Took (l : Load) (queue : List Value) : Prop :=
  ∃ t, l.left = .environment t ∧ t.fileIn = queue.drop 1 ∧
    (queue = [] → l.value = .none ∧
      t.captured = some ⟨.endOfInput, "no queued file contents", l.path⟩)

/-- A load where no file exists. -/
def Load.Missed (l : Load) (queue : List Value) : Prop :=
  ∃ t, l.left = .environment t ∧ t.fileIn = queue ∧ l.value = .none ∧
    t.captured = some ⟨.notFound, "file does not exist", l.path⟩

/-- A save where the storage is full. -/
def Save.Refused (s : Save) (written : List Text.Bytes) : Prop :=
  ∃ t, s.left = .environment t ∧ t.writtenFiles = written ∧ s.value = .none ∧
    t.captured = some ⟨.storageFull, "storage is full", s.path⟩

/-- What a run took from an environment and added to it, for each of its queues and logs. -/
structure Ledger (s : Environment) (events : List Event) (t : Environment) : Prop where
  lines : events.flatMap Event.lines =
    supply s.consoleDefault s.consoleQueue (events.flatMap Event.lines).length
  unread : t.consoleQueue = s.consoleQueue.drop (events.flatMap Event.lines).length
  default : t.consoleDefault = s.consoleDefault
  presence : t.fileExists = s.fileExists
  room : t.fileFull = s.fileFull
  contents : s.fileExists = true → (events.flatMap Event.loads).map Load.value =
    supply .none s.fileIn (events.flatMap Event.loads).length
  unloaded : s.fileExists = true → t.fileIn = s.fileIn.drop (events.flatMap Event.loads).length
  took : s.fileExists = true → ∀ (k : Nat) (l : Load), (events.flatMap Event.loads)[k]? = some l →
    l.Took (s.fileIn.drop k)
  missed : s.fileExists = false → t.fileIn = s.fileIn ∧
    ∀ l ∈ events.flatMap Event.loads, l.Missed s.fileIn
  printed : t.consoleOut.reverse = s.consoleOut.reverse ++
    ((events.flatMap Event.writes).filter toStdout).map (·.2)
  transcript : ∀ points, t.transcript.map Wording.points = .ok points ↔
    ∃ before added, s.transcript.map Wording.points = .ok before ∧
      (Value.joined "" (((events.flatMap Event.writes).filter toStdout).map (·.2))).map
        Wording.points = .ok added ∧ points = before ++ added
  logged : ∃ log, ((events.flatMap Event.writes).filter (!toStdout ·)).mapM named = .ok log ∧
    t.printLog = log.reverse ++ s.printLog
  saved : s.fileFull = false → ∃ contents,
    (events.flatMap Event.saves).mapM (·.contents.toBytes) = .ok contents ∧
      t.writtenFiles = s.writtenFiles ++ contents ∧
      ∀ save ∈ events.flatMap Event.saves, save.value = .none
  refused : s.fileFull = true → t.writtenFiles = s.writtenFiles ∧
    ∀ save ∈ events.flatMap Event.saves, save.Refused s.writtenFiles

section Steps

variable {server : Responder} {s t : Environment} {event : Event}

/-- A step leaves the flags of the file system and the default line as they are. -/
theorem Step.flags (h : Step server s event t) :
    t.consoleDefault = s.consoleDefault ∧ t.fileExists = s.fileExists ∧
      t.fileFull = s.fileFull := by
  cases h with
  | ticked h =>
    obtain ⟨clock, _, rfl⟩ := Environment.advance_ok h
    exact ⟨rfl, rfl, rfl⟩
  | _ => exact ⟨rfl, rfl, rfl⟩

theorem Step.lines (h : Step server s event t) :
    (event.lines = [] ∧ t.consoleQueue = s.consoleQueue) ∨
      (event.lines = [s.consoleQueue.headD s.consoleDefault] ∧
        t.consoleQueue = s.consoleQueue.drop 1) := by
  cases h with
  | ticked h =>
    obtain ⟨clock, _, rfl⟩ := Environment.advance_ok h
    exact Or.inl ⟨rfl, rfl⟩
  | @asked r v keeps answers =>
    cases r with
    | getLine handle =>
      have hv : v = s.consoleQueue.headD s.consoleDefault := answers
      exact Or.inr ⟨by rw [hv]; rfl, rfl⟩
    | _ => exact Or.inl ⟨rfl, rfl⟩
  | _ => exact Or.inl ⟨rfl, rfl⟩

theorem Step.loads (h : Step server s event t) :
    (event.loads = [] ∧ t.fileIn = s.fileIn) ∨
      ∃ l : Load, event.loads = [l] ∧
        ((s.fileExists = true ∧ l.value = s.fileIn.headD .none ∧ t.fileIn = s.fileIn.drop 1 ∧
            l.Took s.fileIn) ∨
          (s.fileExists = false ∧ t.fileIn = s.fileIn ∧ l.Missed s.fileIn)) := by
  cases h with
  | ticked h =>
    obtain ⟨clock, _, rfl⟩ := Environment.advance_ok h
    exact Or.inl ⟨rfl, rfl⟩
  | @asked r v keeps answers =>
    cases r with
    | loadFile path =>
      refine Or.inr ⟨_, rfl, ?_⟩
      simp only [Request.Answers] at answers
      cases hx : s.fileExists with
      | true =>
        simp only [hx, ↓reduceIte] at answers
        refine Or.inl ⟨rfl, answers, by simp [Request.after, hx], _, rfl,
          by simp [Request.after, hx], fun hq => ?_⟩
        rw [hq] at answers
        exact ⟨answers, by simp [Request.after, hx, hq]⟩
      | false =>
        simp only [hx, Bool.false_eq_true, ↓reduceIte] at answers
        have hq : (Request.after server s (.loadFile path)).fileIn = s.fileIn := by
          simp [Request.after, hx]
        exact Or.inr ⟨rfl, hq, _, rfl, hq, answers, by simp [Request.after, hx]⟩
    | _ => exact Or.inl ⟨rfl, rfl⟩
  | _ => exact Or.inl ⟨rfl, rfl⟩

theorem Step.writes (h : Step server s event t) :
    (event.writes = [] ∧ t.consoleOut = s.consoleOut ∧ t.printLog = s.printLog) ∨
      ∃ w : Value × Value, event.writes = [w] ∧
        ((toStdout w = true ∧ t.consoleOut = w.2 :: s.consoleOut ∧ t.printLog = s.printLog) ∨
          (toStdout w = false ∧ t.consoleOut = s.consoleOut ∧
            ∃ entry, named w = .ok entry ∧ t.printLog = entry :: s.printLog)) := by
  cases h with
  | ticked h =>
    obtain ⟨clock, _, rfl⟩ := Environment.advance_ok h
    exact Or.inl ⟨rfl, rfl, rfl⟩
  | @asked r v keeps answers =>
    cases r with
    | put handle text =>
      refine Or.inr ⟨(handle, text), rfl, ?_⟩
      cases hs : handle.same (.handle .stdout) with
      | true => exact Or.inl ⟨hs, by simp [Request.after, hs], by simp [Request.after, hs]⟩
      | false =>
        obtain ⟨name, hn⟩ := answers.2 hs
        refine Or.inr ⟨hs, by simp [Request.after, hs], (name, text), ?_, ?_⟩
        · simp [named, hn, Except.map]
        · simp [Request.after, hs, hn, Except.toOption]
    | _ => exact Or.inl ⟨rfl, rfl, rfl⟩
  | _ => exact Or.inl ⟨rfl, rfl, rfl⟩

theorem Step.saves (h : Step server s event t) :
    (event.saves = [] ∧ t.fileOut = s.fileOut) ∨
      ∃ save : Save, event.saves = [save] ∧
        ((s.fileFull = false ∧ save.value = .none ∧ ∃ bytes, save.contents.toBytes = .ok bytes ∧
            t.fileOut = bytes :: s.fileOut) ∨
          (s.fileFull = true ∧ t.fileOut = s.fileOut ∧ save.Refused s.writtenFiles)) := by
  cases h with
  | ticked h =>
    obtain ⟨clock, _, rfl⟩ := Environment.advance_ok h
    exact Or.inl ⟨rfl, rfl⟩
  | @asked r v keeps answers =>
    cases r with
    | saveFile path contents =>
      refine Or.inr ⟨_, rfl, ?_⟩
      obtain ⟨hv, ready⟩ := answers
      cases hf : s.fileFull with
      | true =>
        have ho : (Request.after server s (.saveFile path contents)).fileOut = s.fileOut := by
          simp [Request.after, hf]
        refine Or.inr ⟨rfl, ho, _, rfl, ?_, hv, by simp [Request.after, hf]⟩
        rw [Environment.writtenFiles, ho, Environment.writtenFiles]
      | false =>
        obtain ⟨bytes, hb⟩ := ready hf
        exact Or.inl ⟨rfl, hv, bytes, hb, by simp [Request.after, hf, hb, Except.toOption]⟩
    | _ => exact Or.inl ⟨rfl, rfl⟩
  | _ => exact Or.inl ⟨rfl, rfl⟩

end Steps

namespace Trail

variable {server : Responder} {s t : Environment} {events : List Event}

theorem flags (h : Trail server s events t) :
    t.consoleDefault = s.consoleDefault ∧ t.fileExists = s.fileExists ∧
      t.fileFull = s.fileFull := by
  induction h with
  | nil => exact ⟨rfl, rfl, rfl⟩
  | cons step _ ih =>
    obtain ⟨hd, hx, hf⟩ := step.flags
    exact ⟨ih.1.trans hd, ih.2.1.trans hx, ih.2.2.trans hf⟩

/-- The lines that are read are the queued ones from the front on, then the default for ever. -/
theorem lines (h : Trail server s events t) :
    events.flatMap Event.lines =
        supply s.consoleDefault s.consoleQueue (events.flatMap Event.lines).length ∧
      t.consoleQueue = s.consoleQueue.drop (events.flatMap Event.lines).length := by
  induction h with
  | nil => exact ⟨by simp [supply], rfl⟩
  | cons step _ ih =>
    rw [List.flatMap_cons]
    obtain ⟨hl, hq⟩ | ⟨hl, hq⟩ := step.lines
    · rw [hl, List.nil_append, ← hq, ← step.flags.1]
      exact ih
    · rw [hl, List.singleton_append, List.length_cons, supply_succ, ← hq, ← step.flags.1]
      refine ⟨congrArg _ ih.1, ?_⟩
      rw [ih.2, hq, List.drop_drop, Nat.add_comm]

theorem loads (h : Trail server s events t) (present : s.fileExists = true) :
    (events.flatMap Event.loads).map Load.value =
        supply .none s.fileIn (events.flatMap Event.loads).length ∧
      t.fileIn = s.fileIn.drop (events.flatMap Event.loads).length ∧
      ∀ (k : Nat) (l : Load), (events.flatMap Event.loads)[k]? = some l →
        l.Took (s.fileIn.drop k) := by
  induction h with
  | nil => exact ⟨by simp [supply], rfl, fun k l hl => by cases hl⟩
  | @cons s u t event events step _ ih =>
    obtain ⟨hv, hd, took⟩ := ih (step.flags.2.1.trans present)
    rw [List.flatMap_cons]
    obtain ⟨hl, hq⟩ | ⟨l, hl, ⟨_, hw, hq, first⟩ | ⟨missing, _⟩⟩ := step.loads
    · rw [hl, List.nil_append, ← hq]
      exact ⟨hv, hd, took⟩
    · rw [hl, List.singleton_append, List.length_cons, supply_succ, ← hq]
      refine ⟨?_, ?_, ?_⟩
      · rw [List.map_cons, hw, hv]
      · rw [hd, hq, List.drop_drop, Nat.add_comm]
      · intro k m hm
        cases k with
        | zero =>
          cases hm
          exact first
        | succ k =>
          -- The later loads see the queue without its front.
          have later := took k m hm
          rwa [hq, List.drop_drop, Nat.add_comm] at later
    · rw [present] at missing
      cases missing

theorem missed (h : Trail server s events t) (missing : s.fileExists = false) :
    t.fileIn = s.fileIn ∧ ∀ l ∈ events.flatMap Event.loads, l.Missed s.fileIn := by
  induction h with
  | nil => exact ⟨rfl, fun l hl => by cases hl⟩
  | cons step _ ih =>
    obtain ⟨hq, later⟩ := ih (step.flags.2.1.trans missing)
    rw [List.flatMap_cons]
    obtain ⟨hl, hs⟩ | ⟨l, hl, ⟨present, _⟩ | ⟨_, hs, first⟩⟩ := step.loads
    · rw [hl, List.nil_append, ← hs]
      exact ⟨hq, later⟩
    · rw [missing] at present
      cases present
    · rw [hl, List.singleton_append]
      rw [hs] at hq later
      exact ⟨hq, List.forall_mem_cons.mpr ⟨first, later⟩⟩

/-- What is written to the standard output and what is written elsewhere, each in its order. -/
theorem writes (h : Trail server s events t) :
    t.consoleOut.reverse = s.consoleOut.reverse ++
        ((events.flatMap Event.writes).filter toStdout).map (·.2) ∧
      ∃ log, ((events.flatMap Event.writes).filter (!toStdout ·)).mapM named = .ok log ∧
        t.printLog = log.reverse ++ s.printLog := by
  induction h with
  | nil => exact ⟨by simp, [], rfl, rfl⟩
  | cons step _ ih =>
    obtain ⟨ho, log, hlog, hp⟩ := ih
    rw [List.flatMap_cons]
    obtain ⟨hw, hc, hl⟩ | ⟨w, hw, ⟨hs, hc, hl⟩ | ⟨hs, hc, entry, hn, hl⟩⟩ := step.writes
    · rw [hw, List.nil_append, ← hc, ← hl]
      exact ⟨ho, log, hlog, hp⟩
    · rw [hw, List.singleton_append, List.filter_cons_of_pos hs,
        List.filter_cons_of_neg (by simp [hs]), ← hl]
      refine ⟨?_, log, hlog, hp⟩
      rw [ho, hc, List.reverse_cons, List.append_assoc, List.map_cons, List.singleton_append]
    · rw [hw, List.singleton_append, List.filter_cons_of_neg (by simp [hs]),
        List.filter_cons_of_pos (by simp [hs]), ← hc]
      refine ⟨ho, entry :: log, ?_, ?_⟩
      · rw [List.mapM_cons, hn, hlog]
        rfl
      · rw [hp, hl, List.reverse_cons, List.append_assoc, List.singleton_append]

theorem saves (h : Trail server s events t) (room : s.fileFull = false) :
    ∃ contents, (events.flatMap Event.saves).mapM (·.contents.toBytes) = .ok contents ∧
      t.writtenFiles = s.writtenFiles ++ contents ∧
      ∀ save ∈ events.flatMap Event.saves, save.value = .none := by
  induction h with
  | nil => exact ⟨[], rfl, (List.append_nil _).symm, fun save hs => by cases hs⟩
  | @cons s u t event events step _ ih =>
    obtain ⟨contents, hm, hw, later⟩ := ih (step.flags.2.2.trans room)
    rw [List.flatMap_cons]
    obtain ⟨hl, ho⟩ | ⟨save, hl, ⟨_, hv, bytes, hb, ho⟩ | ⟨full, _⟩⟩ := step.saves
    · rw [hl, List.nil_append]
      refine ⟨contents, hm, ?_, later⟩
      rw [hw, Environment.writtenFiles, ho, Environment.writtenFiles]
    · rw [hl, List.singleton_append]
      refine ⟨bytes :: contents, ?_, ?_, List.forall_mem_cons.mpr ⟨hv, later⟩⟩
      · rw [List.mapM_cons, hb, hm]
        rfl
      · rw [hw, Environment.writtenFiles, ho, List.reverse_cons, List.append_assoc,
          List.singleton_append, Environment.writtenFiles]
    · rw [room] at full
      cases full

theorem refused (h : Trail server s events t) (full : s.fileFull = true) :
    t.writtenFiles = s.writtenFiles ∧
      ∀ save ∈ events.flatMap Event.saves, save.Refused s.writtenFiles := by
  induction h with
  | nil => exact ⟨rfl, fun save hs => by cases hs⟩
  | @cons s u t event events step _ ih =>
    obtain ⟨hw, later⟩ := ih (step.flags.2.2.trans full)
    have kept : u.fileOut = s.fileOut → u.writtenFiles = s.writtenFiles := congrArg List.reverse
    rw [List.flatMap_cons]
    obtain ⟨hl, ho⟩ | ⟨save, hl, ⟨room, _⟩ | ⟨_, ho, first⟩⟩ := step.saves
    · rw [hl, List.nil_append, ← kept ho]
      exact ⟨hw, later⟩
    · rw [full] at room
      cases room
    · rw [hl, List.singleton_append]
      rw [kept ho] at hw later
      exact ⟨hw, List.forall_mem_cons.mpr ⟨first, later⟩⟩

/-- Every run along a trail balances its ledger. -/
theorem ledger (h : Trail server s events t) : Ledger s events t where
  lines := h.lines.1
  unread := h.lines.2
  default := h.flags.1
  presence := h.flags.2.1
  room := h.flags.2.2
  contents present := (h.loads present).1
  unloaded present := (h.loads present).2.1
  took present := (h.loads present).2.2
  missed missing := h.missed missing
  printed := h.writes.1
  transcript points := by
    rw [Environment.transcript, h.writes.1]
    exact Value.joined_append
  logged := h.writes.2
  saved room := h.saves room
  refused full := h.refused full

end Trail

/-- A run that puts no other environment in place accounts for all that it executes. -/
theorem Program.simulate_ledger (server : Responder) (p : Program) (s : Environment) (v : Value)
    (after : Aftermath) (keeps : p.All Request.KeepsEnvironment)
    (h : p.simulate server s = .ok (v, after)) :
    ∃ t events, after = .environment t ∧ p.trace server s = .ok ⟨v, after, events⟩ ∧
      Ledger s events t := by
  rw [← p.trace_result server s, Outcome.map_eq_ok] at h
  obtain ⟨⟨value, left, events⟩, traced, hr⟩ := h
  cases hr
  obtain ⟨t, ht, _, walked⟩ := p.trace_walks keeps traced
  exact ⟨t, events, ht, traced, walked.ledger⟩

/-- Two lines and a file are queued, and each log has an entry already. -/
def stocked : Environment :=
  { Environment.fresh with
    consoleQueue := ["one", "two"], consoleOut := ["first"], printLog := [("stderr", "early")],
    fileIn := [.bytes [104, 105]], fileOut := [[0]] }

/-- Copies a line to the standard output and the standard error, then a file, and loads the file
once more. -/
def copying : Program :=
  .bind (.ask (.getLine (.handle .stdin))) fun line =>
    .bind (.put .stdout line) fun _ =>
      .bind (.put .stderr line) fun _ =>
        .bind (.ask (.loadFile (.text "notes"))) fun notes =>
          .bind (.ask (.saveFile (.text "copy") notes)) fun _ => .ask (.loadFile (.text "notes"))

/-- What copying leaves of the stock after five ticks: a line is left, and the second load found no
file. -/
def copied : Environment :=
  { stocked with
    clock := { stocked.clock with
      wall := stocked.clock.wall + 5 * Time.secondMicros
      wall_lt := by decide }
    consoleQueue := ["two"], consoleOut := ["one", "first"],
    printLog := [("stderr", "one"), ("stderr", "early")], fileIn := [],
    fileOut := [[104, 105], [0]],
    captured := some ⟨.endOfInput, "no queued file contents", "notes"⟩ }

theorem copying_ledger :
    copying.All Request.KeepsEnvironment ∧
      copying.simulate .unreachable stocked = .ok (.none, .environment copied) ∧
      ∃ events,
        copying.trace .unreachable stocked = .ok ⟨.none, .environment copied, events⟩ ∧
          Ledger stocked events copied := by
  have keeps : copying.All Request.KeepsEnvironment := by
    simp [copying, Program.All, Program.put, Request.KeepsEnvironment]
  have returns : copying.simulate .unreachable stocked = .ok (.none, .environment copied) := by
    simp only [copying, Program.simulate, Program.put, Request.simulate, Environment.put_stdout,
      Environment.put_stderr]
    rfl
  obtain ⟨t, events, same, traced, ledger⟩ := Program.simulate_ledger _ _ _ _ _ keeps returns
  cases same
  exact ⟨keeps, returns, events, traced, ledger⟩

end Rehearsal
