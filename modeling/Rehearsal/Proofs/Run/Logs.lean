import Rehearsal.Program.Assert
import Rehearsal.Proofs.Run.Footprint
import Rehearsal.Proofs.Tree.Flat

/-!
# What was logged before

A run adds to the logs of an environment and never reads them, unless it asks for the environment as
a whole. What was logged before therefore lies below what the run logs and plays no other part: it
can be taken away before a run and laid under its logs afterwards. The same holds of suites, which
report what their run has added.
-/

namespace Rehearsal

/-- What has been written, saved and recorded. Assertions have their oldest entry first, the other
logs their newest. -/
structure Logs where
  printLog : List (String × Value)
  consoleOut : List Value
  fileOut : List Text.Bytes
  assertions : List Assertion

def Logs.empty : Logs := ⟨[], [], [], []⟩

/-- The logs with newer ones after them. -/
def Logs.extend (old new : Logs) : Logs where
  printLog := new.printLog ++ old.printLog
  consoleOut := new.consoleOut ++ old.consoleOut
  fileOut := new.fileOut ++ old.fileOut
  assertions := old.assertions ++ new.assertions

namespace Environment

def logs (e : Environment) : Logs := ⟨e.printLog, e.consoleOut, e.fileOut, e.assertions⟩

/-- The environment with other logs; everything else stays. -/
def withLogs (e : Environment) (logs : Logs) : Environment :=
  { e with
    printLog := logs.printLog
    consoleOut := logs.consoleOut
    fileOut := logs.fileOut
    assertions := logs.assertions }

/-- The environment with older logs below its own. -/
def upon (old : Logs) (e : Environment) : Environment := e.withLogs (old.extend e.logs)

/-- An environment whose logs are taken away and laid under again. -/
theorem withLogs_eq_upon (e : Environment) (logs : Logs) :
    e.withLogs logs = (e.withLogs .empty).upon logs := by
  simp [upon, Logs.extend, Logs.empty, withLogs, Environment.logs]

theorem eq_upon (e : Environment) : e = (e.withLogs .empty).upon e.logs := by
  rw [← withLogs_eq_upon]
  cases e
  rfl

/-- A tick does not look at the logs. -/
theorem advance_upon (old : Logs) (e : Environment) :
    (e.upon old).advance = e.advance.map (upon old) := by
  simp only [advance, upon, withLogs]
  cases e.clock.add? e.tick <;> rfl

end Environment

namespace Aftermath

def upon (old : Logs) : Aftermath → Aftermath
  | environment e => environment (e.upon old)
  | stray v => stray v

theorem require_upon (old : Logs) (part : String) (after : Aftermath) :
    (after.upon old).require part = (after.require part).map (Environment.upon old) := by
  cases after <;> rfl

theorem withContext_upon (old : Logs) (context : List Value) (after : Aftermath) :
    (after.upon old).withContext context = (after.withContext context).map (upon old) := by
  cases after <;> rfl

end Aftermath

/-- What a run comes to, with older logs below what it leaves. -/
def resultUpon (old : Logs) (result : Value × Aftermath) : Value × Aftermath :=
  (result.1, result.2.upon old)

namespace Request

/-- Requests that see or replace parts of an environment, and never the whole. -/
def Piecemeal : Request → Prop
  | .getEnvironment | .putEnvironment _ => False
  | _ => True

theorem Piecemeal.keepsEnvironment {r : Request} (h : r.Piecemeal) : r.KeepsEnvironment := by
  cases r with
  | putEnvironment => exact h.elim
  | _ => trivial

/-- A request adds to the logs without a look at what is in them. -/
theorem simulate_upon (server : Responder) (old : Logs) {r : Request} (piecemeal : r.Piecemeal)
    (e : Environment) :
    r.simulate server (e.upon old) = (r.simulate server e).map (resultUpon old) := by
  cases r with
  | getEnvironment | putEnvironment => exact piecemeal.elim
  | getLine handle =>
    simp only [simulate, Environment.getLine_eq]
    rfl
  | put handle text =>
    simp only [simulate, Environment.put]
    cases handle.same (.handle .stdout) with
    | true => rfl
    | false => cases handle.name <;> rfl
  | loadFile path =>
    have present : (e.upon old).fileExists = e.fileExists := rfl
    have queue : (e.upon old).fileIn = e.fileIn := rfl
    simp only [simulate, Environment.loadFile, Environment.failing, present, queue]
    cases e.fileExists with
    | false => cases Fault.make .notFound "file does not exist" path <;> rfl
    | true =>
      cases e.fileIn with
      | nil => cases Fault.make .endOfInput "no queued file contents" path <;> rfl
      | cons => rfl
  | saveFile path contents =>
    have full : (e.upon old).fileFull = e.fileFull := rfl
    simp only [simulate, Environment.saveFile, Environment.failing, full]
    cases e.fileFull with
    | true => cases Fault.make .storageFull "storage is full" path <;> rfl
    | false => cases contents.toBytes <;> rfl
  | randomBetween a b =>
    have generator : (e.upon old).generator = e.generator := rfl
    simp only [simulate, Environment.drawBetween, generator]
    cases e.generator.between a b <;> rfl
  | http request session =>
    have kept : (e.upon old).clientLocal = e.clientLocal := rfl
    simp only [simulate, Environment.respond, kept]
    cases server.answer e.clientLocal request with
    | error => rfl
    | ok answered =>
      obtain ⟨answer, next⟩ := answered
      cases answer <;> rfl
  | record a =>
    simp [simulate, Except.map, resultUpon, Aftermath.upon, Environment.upon, Environment.withLogs,
      Logs.extend, Environment.logs]
  | context =>
    have context : (e.upon old).context = e.context := rfl
    simp only [simulate, context]
    cases Value.renderContext e.context <;> rfl
  | _ => rfl

end Request

namespace Program

theorem enter_upon (old : Logs) (p : Program) (after : Aftermath) :
    p.enter (after.upon old) = (p.enter after).map (Environment.upon old) := by
  unfold enter
  cases p.refusal? with
  | some error => rfl
  | none =>
    rw [Aftermath.require_upon]
    cases after.require "advance" with
    | error => rfl
    | ok e => exact e.advance_upon old

end Program

mutual

/-- By induction on the program: what is below the logs before a run is below them after it, and
neither the value nor an error depends on it. -/
theorem Program.simulate_upon (server : Responder) (old : Logs) :
    ∀ p : Program, p.All Request.Piecemeal → ∀ e : Environment,
      p.simulate server (e.upon old) = (p.simulate server e).map (resultUpon old)
  | .pure _, _, _ => rfl
  | .fail _, _, _ => rfl
  | .ask r, piecemeal, e => r.simulate_upon server old piecemeal e
  | .bind p next, piecemeal, e => by
    simp only [Program.simulate, p.simulate_upon server old piecemeal.1 e]
    cases p.simulate server e with
    | error => rfl
    | ok result =>
      obtain ⟨v, after⟩ := result
      simp only [Except.map, resultUpon, bind, Except.bind, Program.enter_upon]
      cases (next v).enter after with
      | error => rfl
      | ok entered => exact (next v).simulate_upon server old (piecemeal.2 v) entered
  | .map p change, piecemeal, e => by
    simp only [Program.simulate, p.simulate_upon server old piecemeal e]
    cases p.simulate server e with
    | error => rfl
    | ok result =>
      simp only [Except.map, resultUpon, bind, Except.bind]
      cases change result.1 <;> rfl
  | .body b, piecemeal, e => b.simulate_upon server old piecemeal e
  | .attempt p kind, piecemeal, e => by
    simp only [Program.simulate, p.simulate_upon server old piecemeal e]
    cases p.simulate server e with
    | error => rfl
    | ok result =>
      simp only [Except.map, resultUpon, bind, Except.bind, Aftermath.require_upon]
      cases result.2.require "captured_fault" <;> rfl
  | .nest name p, piecemeal, e => by
    -- The context is no log, so it may be set before the logs are laid under or after it.
    have inside : { e.upon old with context := (e.upon old).context ++ [name] } =
        Environment.upon old { e with context := e.context ++ [name] } := rfl
    simp only [Program.simulate, inside, p.simulate_upon server old piecemeal]
    cases p.simulate server { e with context := e.context ++ [name] } with
    | error => rfl
    | ok result =>
      have context : (e.upon old).context = e.context := rfl
      simp only [Except.map, resultUpon, bind, Except.bind, context, Aftermath.withContext_upon]
      cases result.2.withContext e.context <;> rfl

theorem Body.simulate_upon (server : Responder) (old : Logs) :
    ∀ b : Body, b.All Request.Piecemeal → ∀ e : Environment,
      b.simulate server (e.upon old) = (b.simulate server e).map (resultUpon old)
  | .done _, _, _ => rfl
  | .raise _, _, _ => rfl
  | .yield p next, piecemeal, e => by
    simp only [Body.simulate, p.simulate_upon server old piecemeal.1 e]
    cases p.simulate server e with
    | error => rfl
    | ok result =>
      obtain ⟨v, after⟩ := result
      simp only [Except.map, resultUpon, bind, Except.bind, Aftermath.require_upon]
      cases after.require "advance" with
      | error => rfl
      | ok left =>
        simp only [Except.map, Environment.advance_upon]
        cases left.advance with
        | error => rfl
        | ok resumed => exact (next v).simulate_upon server old (piecemeal.2 v) resumed

end

/-- Two runs of a program that stop with one error, or return one value, leave the same environment
but for its logs, and add the same to each of those. -/
def Program.RunsAlike (server : Responder) (p : Program) (e f : Environment) : Prop :=
  (∃ error, p.simulate server e = .error error ∧ p.simulate server f = .error error) ∨
    ∃ v t u added, p.simulate server e = .ok (v, .environment t) ∧
      p.simulate server f = .ok (v, .environment u) ∧ u = t.withLogs u.logs ∧
      t.logs = e.logs.extend added ∧ u.logs = f.logs.extend added

theorem Program.runsAlike {server : Responder} {p : Program} (piecemeal : p.All Request.Piecemeal)
    {e f : Environment} (same : f = e.withLogs f.logs) : p.RunsAlike server e f := by
  -- Both environments are one environment without logs, with other logs below.
  have left := p.simulate_upon server e.logs piecemeal (e.withLogs .empty)
  have right := p.simulate_upon server f.logs piecemeal (e.withLogs .empty)
  rw [← e.eq_upon] at left
  rw [← e.withLogs_eq_upon, ← same] at right
  cases h : p.simulate server (e.withLogs .empty) with
  | error error =>
    rw [h] at left right
    exact Or.inl ⟨error, left, right⟩
  | ok result =>
    obtain ⟨v, after⟩ := result
    have keeps := Program.All.mono (fun _ => Request.Piecemeal.keepsEnvironment) p piecemeal
    obtain ⟨t, rfl, _⟩ := p.keepsContext_of_all keeps _ _ _ h
    rw [h] at left right
    exact Or.inr ⟨v, t.upon e.logs, t.upon f.logs, t.logs, left, right, rfl, rfl, rfl⟩

namespace Tree

/-- A suite reports the same whatever was logged before it. -/
theorem simulate_logs {server : Responder} {tree : Tree Operand}
    (piecemeal : tree.All (Operand.All Request.Piecemeal)) {e f : Environment}
    (same : f = e.withLogs f.logs) :
    (tree.simulate server e).map (·.1) = (tree.simulate server f).map (·.1) := by
  unfold Tree.simulate
  cases compiled : tree.compile .simulated with
  | error => rfl
  | ok o =>
    cases o with
    | program p =>
      have all : p.All Request.Piecemeal := compile_all .simulated tree piecemeal compiled p rfl
      simp only [bind, Except.bind, Operand.simulate, Operand.require]
      have alike : p.RunsAlike server e f := Program.runsAlike all same
      obtain ⟨error, left, right⟩ | ⟨v, t, u, added, left, right, _, first, second⟩ := alike
      · rw [left, right]
      · have before : t.assertions = e.assertions ++ added.assertions :=
          congrArg (·.assertions) first
        have after : u.assertions = f.assertions ++ added.assertions :=
          congrArg (·.assertions) second
        simp only [left, right, Aftermath.require, before, after, List.drop_left]
        rfl
    | _ => rfl

end Tree

namespace Environment

/-- Programs that never see or replace the environment as a whole run alike from two environments
that differ in their logs only, and suites of them report the same. -/
theorem logs_unread (server : Responder) (e f : Environment) (same : f = e.withLogs f.logs) :
    (∀ p : Program, p.All Request.Piecemeal → p.RunsAlike server e f) ∧
      ∀ tree : Tree Operand, tree.All (Operand.All Request.Piecemeal) →
        (tree.simulate server e).map (·.1) = (tree.simulate server f).map (·.1) :=
  ⟨fun _ piecemeal => Program.runsAlike piecemeal same,
    fun _ piecemeal => Tree.simulate_logs piecemeal same⟩

/-- A fresh environment, were it not for what an earlier run has logged. -/
def reused : Environment :=
  fresh.withLogs
    { printLog := [("stderr", "late")]
      consoleOut := ["two", "one"]
      fileOut := [[0, 255]]
      assertions := [.ofBool false "0 is 1" "before" "from an earlier run"] }

/-- Writes a line and saves a file, then records an assertion under a label. -/
def reporting : Program :=
  .bind (.put .stdout (.text "three")) fun _ =>
    .bind (.ask (.saveFile (.text "notes") (.bytes [1]))) fun _ =>
      .nest (.text "report") (.assertThat true "1 is 1" "counts")

theorem reporting_unread :
    reused = fresh.withLogs reused.logs ∧ reporting.All Request.Piecemeal ∧
      reporting.RunsAlike .unreachable fresh reused ∧
      ∃ summary,
        ((Tree.case (.program reporting)).simulate .unreachable fresh).map (·.1) = .ok summary ∧
        ((Tree.case (.program reporting)).simulate .unreachable reused).map (·.1) = .ok summary ∧
        summary.successes = 1 ∧ summary.failures = 0 := by
  have piecemeal : reporting.All Request.Piecemeal :=
    ⟨trivial, fun _ => ⟨trivial, fun _ => ⟨trivial, fun _ => trivial⟩⟩⟩
  have suite : (Tree.case (.program reporting)).All (Operand.All Request.Piecemeal) := by
    rintro p hp
    cases hp
    exact piecemeal
  have counted :
      (((Tree.case (.program reporting)).simulate .unreachable fresh).map (·.1)).toOption.map
        (fun summary => (summary.successes, summary.failures)) = some (1, 0) := by
    decide +kernel
  have unread := logs_unread .unreachable fresh reused rfl
  have alike := unread.2 (Tree.case (.program reporting)) suite
  cases h : ((Tree.case (.program reporting)).simulate .unreachable fresh).map (·.1) with
  | error e =>
    rw [h] at counted
    cases counted
  | ok summary =>
    rw [h, Except.toOption, Option.map_some, Option.some.injEq, Prod.mk.injEq] at counted
    exact ⟨rfl, piecemeal, unread.1 reporting piecemeal, summary, rfl, alike.symm.trans h,
      counted.1, counted.2⟩

end Environment

end Rehearsal
