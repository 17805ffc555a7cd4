import Mathlib.Tactic.Choose
import Rehearsal.Proofs.Tree.Flat
import Rehearsal.Script.Build

/-!
# Scripts that are built alike

A console script uses only operations that both interpreters have and build in the same way. It is
built for either of them into the same program, or refused with the same error, whatever it is
nested in and whatever values its late parts receive.
-/

namespace Rehearsal

namespace Script

/-- The operations of a console script: values, handles, lines, texts, assertions and summaries. -/
def Action.Console : Action → Prop
  | pure _ | standardInput | standardOutput | standardError | getLine _ | putChar _ _ | put _ _
  | putLine _ _ | flush _ | record _ | context | assertIf _ _ _ | assertSuccess _
  | assertFailure _ | assertTrue _ _ | assertFalse _ _ | assertEqual _ _ _ | assertNotEqual _ _ _
  | assertIsSubstring _ _ _ | assertIsNotSubstring _ _ _ | assertIsNamedSubstring _ _ _ _
  | assertIsNotNamedSubstring _ _ _ _ | assertMatchesSchema _ _ _ _ | printSummary _ _ => True
  | _ => False

mutual

/-- Scripts of console operations, combined in any way. -/
def Console : Script → Prop
  | action a => a.Console
  | raw _ | foreign => False
  | block lines _ => BlockConsole lines
  | repeated _ s => s.Console
  | sequence scripts => AllConsole scripts
  | bind first _ next => first.Console ∧ next.Console
  | map first _ _ => first.Console
  | cond _ yes no => yes.Console ∧ no.Console
  | attempt s _ => s.Console
  | nest _ s => s.Console
  | tree t => CasesConsole t

def BlockConsole : List (Option String × Script) → Prop
  | [] => True
  | (_, s) :: rest => s.Console ∧ BlockConsole rest

def AllConsole : List Script → Prop
  | [] => True
  | s :: rest => s.Console ∧ AllConsole rest

def CasesConsole : CaseScript → Prop
  | .case s => s.Console
  | .group children => AllCasesConsole children
  | .label _ child => CasesConsole child
  | .stray _ => False

def AllCasesConsole : List CaseScript → Prop
  | [] => True
  | t :: rest => CasesConsole t ∧ AllCasesConsole rest

end

end Script

/-- A body that runs programs built anew does not depend on the interpreter. -/
theorem Body.repeated_alike (i j : Interpreter) (built : Nat → Outcome Program) (count : Nat) :
    ∀ (done : Nat) (values : List Value),
      repeated i (fun turn => (built turn).map .program) done count values =
        repeated j (fun turn => (built turn).map .program) done count values := by
  induction count with
  | zero => exact fun _ _ => rfl
  | succ count ih =>
    intro done values
    cases hb : built done with
    | error e => simp only [repeated, hb, Except.map]
    | ok p =>
      have turn : (Except.ok p : Outcome Program).map Operand.program = .ok (.program p) := rfl
      simp only [repeated, hb, turn, yieldOperand, Operand.require, ih]

namespace Tree

mutual

theorem program_alike (i j : Interpreter) :
    ∀ tree : Tree Operand, tree.All Operand.IsComputation → tree.program i = tree.program j
  | case _, ⟨_, rfl⟩ => rfl
  | group children, h => by rw [program, program, programs_alike i j children h]
  | label name child, h => by rw [program, program, program_alike i j child h]
  | stray _, h => h.elim

theorem programs_alike (i j : Interpreter) :
    ∀ trees : List (Tree Operand), AllOf Operand.IsComputation trees →
      programs i trees = programs j trees
  | [], _ => rfl
  | child :: rest, h => by
    rw [programs, programs, program_alike i j child h.1, programs_alike i j rest h.2]

end

end Tree

namespace Script

theorem Action.build_alike (a : Action) (scope : Scope) (console : a.Console) :
    ∃ program : Outcome Program, ∀ i, a.build i scope = program.map .program := by
  refine ⟨a.program .simulated scope, fun i => ?_⟩
  cases a <;> first
    | exact console.elim
    | cases i <;> rfl

mutual

/-- A console script is built alike, since all that it puts together is. -/
theorem build_alike :
    ∀ (s : Script) (scope : Scope), s.Console →
      ∃ program : Outcome Program, ∀ i, s.build i scope = program.map .program
  | .action a, scope, console => a.build_alike scope console
  | .raw _, _, console => console.elim
  | .foreign, _, console => console.elim
  | .block lines last, scope, console => by
    obtain ⟨b, hb⟩ := buildBlock_alike lines scope 0 last console
    exact ⟨.ok (.body b), fun i => by rw [build, hb i, Except.map]⟩
  | .repeated count s, scope, console => by
    choose built hb using fun turn => build_alike s (scope.part turn) console
    refine ⟨.ok (.body (.repeated .simulated (fun turn => (built turn).map .program) 0 count [])),
      fun i => ?_⟩
    have turns : (fun turn => s.build i (scope.part turn)) =
        fun turn => (built turn).map .program := funext fun turn => hb turn i
    rw [build, turns, Body.repeated_alike i .simulated, Except.map]
  | .sequence scripts, scope, console => by
    obtain ⟨programs, hp⟩ := buildAll_alike scripts scope 0 console
    refine ⟨programs.map fun ps => .body (.ofList .none ps), fun i => ?_⟩
    rw [build, hp i]
    cases programs with
    | error e => rfl
    | ok ps =>
      simp only [Except.map, Bind.bind, Except.bind, Pure.pure, Except.pure,
        Tree.sequence_programs]
  | .bind first name next, scope, console => by
    obtain ⟨program, hp⟩ := build_alike first (scope.part 0) console.1
    choose following hf using fun v =>
      build_alike next ((scope.part 1).bind (some name) v) console.2
    refine ⟨program.map fun p => .bind p fun v => .ofOutcome (following v), fun i => ?_⟩
    -- The second part is built for every value anew, and alike for each of them.
    have late : (fun v => Program.ofOutcome do
        let o ← next.build i ((scope.part 1).bind (some name) v)
        o.require i) = fun v => .ofOutcome (following v) := by
      funext v
      rw [hf v i]
      cases following v <;> rfl
    rw [build, hp i, late]
    cases program <;> rfl
  | .map first name change, scope, console => by
    obtain ⟨program, hp⟩ := build_alike first (scope.part 0) console
    refine ⟨program.map fun p =>
      .map p fun v => change.eval ((scope.part 1).bind (some name) v), fun i => ?_⟩
    rw [build, hp i]
    cases program <;> rfl
  | .cond condition yes no, scope, console => by
    cases hc : condition.eval (scope.part 0) with
    | error e => exact ⟨.error e, fun i => by rw [build, hc]; rfl⟩
    | ok v =>
      cases ht : v.truth with
      | true =>
        obtain ⟨program, hp⟩ := build_alike yes (scope.part 1) console.1
        exact ⟨program, fun i => by rw [← hp i, build, hc]; simp [Bind.bind, Except.bind, ht]⟩
      | false =>
        obtain ⟨program, hp⟩ := build_alike no (scope.part 1) console.2
        exact ⟨program, fun i => by rw [← hp i, build, hc]; simp [Bind.bind, Except.bind, ht]⟩
  | .attempt s kind, scope, console => by
    obtain ⟨program, hp⟩ := build_alike s scope console
    refine ⟨program.map fun p => .attempt p kind, fun i => ?_⟩
    rw [build, hp i]
    cases program <;> rfl
  | .nest name s, scope, console => by
    obtain ⟨program, hp⟩ := build_alike s scope console
    refine ⟨program.map fun p => .nest name p, fun i => ?_⟩
    rw [build, hp i]
    cases program <;> rfl
  | .tree t, scope, console => by
    obtain ⟨built, hb, runs⟩ := buildCases_alike t scope console
    refine ⟨built.map fun tree => tree.program .simulated, fun i => ?_⟩
    rw [build, hb i]
    cases ht : built with
    | error e => rfl
    | ok tree =>
      have computed := runs tree ht
      simp only [Except.map, Bind.bind, Except.bind, Tree.compile_program i tree computed,
        Tree.program_alike i .simulated tree computed]

theorem buildBlock_alike :
    ∀ (lines : List (Option String × Script)) (scope : Scope) (number : Nat) (last : Expr),
      BlockConsole lines → ∃ b, ∀ i, buildBlock i scope number lines last = b
  | [], scope, number, last, _ => ⟨_, fun _ => rfl⟩
  | (name, s) :: rest, scope, number, last, console => by
    obtain ⟨program, hp⟩ := build_alike s (scope.part number) console.1
    choose later hl using fun v =>
      buildBlock_alike rest (scope.bind name v) (number + 1) last console.2
    refine ⟨match program with
      | .ok p => .yield p later
      | .error e => .raise e, fun i => ?_⟩
    have continued : (fun v => buildBlock i (scope.bind name v) (number + 1) rest last) = later :=
      funext fun v => hl v i
    rw [buildBlock, hp i, continued]
    cases program <;> rfl

theorem buildAll_alike :
    ∀ (scripts : List Script) (scope : Scope) (number : Nat), AllConsole scripts →
      ∃ programs : Outcome (List Program), ∀ i,
        buildAll i scope number scripts = programs.map (·.map .program)
  | [], scope, number, _ => ⟨.ok [], fun _ => rfl⟩
  | s :: rest, scope, number, console => by
    obtain ⟨program, hp⟩ := build_alike s (scope.part number) console.1
    obtain ⟨programs, hr⟩ := buildAll_alike rest scope (number + 1) console.2
    refine ⟨do return (← program) :: (← programs), fun i => ?_⟩
    rw [buildAll, hp i, hr i]
    cases program with
    | error e => rfl
    | ok p => cases programs <;> rfl

theorem buildCases_alike :
    ∀ (t : CaseScript) (scope : Scope), CasesConsole t →
      ∃ built : Outcome (Tree Operand), (∀ i, t.build i scope = built) ∧
        ∀ tree, built = .ok tree → tree.All Operand.IsComputation
  | .case s, scope, console => by
    obtain ⟨program, hp⟩ := build_alike s scope console
    refine ⟨program.map fun p => .case (.program p), fun i => ?_, fun tree ht => ?_⟩
    · rw [CaseScript.build, hp i]
      cases program <;> rfl
    · obtain ⟨p, _, rfl⟩ := Outcome.map_eq_ok.mp ht
      exact ⟨p, rfl⟩
  | .group children, scope, console => by
    obtain ⟨built, hb, runs⟩ := buildAllCases_alike children scope 0 console
    refine ⟨built.map .group, fun i => by rw [CaseScript.build, hb i], fun tree ht => ?_⟩
    obtain ⟨trees, hs, rfl⟩ := Outcome.map_eq_ok.mp ht
    exact runs trees hs
  | .label name child, scope, console => by
    obtain ⟨built, hb, runs⟩ := buildCases_alike child scope console
    refine ⟨built.map (.label name), fun i => by rw [CaseScript.build, hb i], fun tree ht => ?_⟩
    obtain ⟨inner, hi, rfl⟩ := Outcome.map_eq_ok.mp ht
    exact runs inner hi
  | .stray _, _, console => console.elim

theorem buildAllCases_alike :
    ∀ (children : List CaseScript) (scope : Scope) (number : Nat), AllCasesConsole children →
      ∃ built : Outcome (List (Tree Operand)),
        (∀ i, CaseScript.buildAll i scope number children = built) ∧
          ∀ trees, built = .ok trees → Tree.AllOf Operand.IsComputation trees
  | [], scope, number, _ => by
    refine ⟨.ok [], fun _ => rfl, fun trees ht => ?_⟩
    cases ht
    trivial
  | t :: rest, scope, number, console => by
    obtain ⟨built, hb, runs⟩ := buildCases_alike t (scope.part number) console.1
    obtain ⟨others, ho, later⟩ := buildAllCases_alike rest scope (number + 1) console.2
    refine ⟨do return (← built) :: (← others), fun i => ?_, fun trees ht => ?_⟩
    · rw [CaseScript.buildAll, hb i, ho i]
    · simp only [Outcome.bind_eq_ok, Outcome.pure_eq_ok] at ht
      obtain ⟨tree, hs, more, hm, rfl⟩ := ht
      exact ⟨runs tree hs, later more hm⟩

end

end Script

end Rehearsal
