import Rehearsal.Proofs.Body.Chain
import Rehearsal.Proofs.Run.Mirror
import Rehearsal.Proofs.Run.Trail
import Rehearsal.Proofs.Tree.Agenda

/-!
# Running a case tree from its flat view

A simulated run of a tree is a pass over its agenda: every case runs under the labels around it and
goes back to the context of the tree, and the clock moves by one tick after every child of a group.
On a host the tree has the effects of its cases one after the other. In both, the first case that
stops with an error stops the whole.
-/

namespace Rehearsal

namespace Stage

/-- A pass over the stages of an agenda around a context: the runs of its cases and the environment
that is left. -/
def pass (server : Responder) (base : List Value) :
    List (Stage Operand) → Environment → Outcome (List Run × Environment)
  | [], e => .ok ([], e)
  | .tick :: rest, e => do pass server base rest (← e.advance)
  | .case path o :: rest, e => do
    let run ← o.trace server { e with context := base ++ path }
    let left ← run.left.require "context"
    let (runs, last) ← pass server base rest { left with context := base }
    return (run :: runs, last)

/-- The cases one after the other on a host. -/
def perform {σ : Type} (m : Machine σ) (base : List Value) :
    List (List Value × Operand) → Host σ → Outcome (List Value) × Host σ
  | [], h => (.ok [], h)
  | (path, o) :: rest, h =>
    Host.andThen ((o.orRefusing .host).perform m (base ++ path) h) fun v h =>
      Host.andThen (perform m base rest h) fun values h => (.ok (v :: values), h)

theorem perform_append {σ : Type} (m : Machine σ) (base : List Value)
    (cases later : List (List Value × Operand)) (h : Host σ) :
    perform m base (cases ++ later) h =
      Host.andThen (perform m base cases h) fun values h =>
        Host.andThen (perform m base later h) fun more h => (.ok (values ++ more), h) := by
  induction cases generalizing h with
  | nil =>
    rw [List.nil_append, perform, Host.andThen_ok]
    rcases perform m base later h with ⟨_ | _, _⟩ <;> rfl
  | cons case rest ih =>
    simp only [List.cons_append, perform, ih, Host.andThen_assoc, Host.andThen_ok]

variable {server : Responder} {base : List Value}

theorem pass_append (stages later : List (Stage Operand)) (e : Environment) :
    pass server base (stages ++ later) e = do
      let (runs, u) ← pass server base stages e
      let (more, last) ← pass server base later u
      return (runs ++ more, last) := by
  induction stages generalizing e with
  | nil =>
    simp only [List.nil_append, pass, bind, Except.bind]
    cases pass server base later e <;> rfl
  | cons stage rest ih =>
    cases stage with
    | tick => simp only [List.cons_append, pass, ih, bind_assoc]
    | case path o => simp only [List.cons_append, pass, ih, bind_assoc, pure_bind]

/-- A pass ends in the context that it is around. -/
theorem pass_context {stages : List (Stage Operand)} {e : Environment} {runs : List Run}
    {last : Environment} (h : pass server base stages e = .ok (runs, last))
    (start : e.context = base) : last.context = base := by
  induction stages generalizing e runs with
  | nil =>
    cases h
    exact start
  | cons stage rest ih =>
    cases stage with
    | tick =>
      simp only [pass, Outcome.bind_eq_ok] at h
      obtain ⟨u, hu, h⟩ := h
      obtain ⟨clock, _, rfl⟩ := Environment.advance_ok hu
      exact ih h start
    | case path o =>
      simp only [pass, Outcome.bind_eq_ok, Outcome.pure_eq_ok] at h
      obtain ⟨run, _, left, _, ⟨more, t⟩, h, he⟩ := h
      cases he
      exact ih h rfl

end Stage

namespace Operand

def IsComputation (o : Operand) : Prop := ∃ p, o = .program p

def KeepsContext (server : Responder) (o : Operand) : Prop :=
  ∀ p, o = .program p → p.KeepsContext server

/-- Every request of an operand that can be run is as it should be. -/
def All (P : Request → Prop) (o : Operand) : Prop := ∀ p, o = .program p → p.All P

end Operand

theorem Body.sequence_all {P : Request → Prop} (i : Interpreter) {operands : List Operand}
    (all : ∀ o ∈ operands, o.All P) : (Body.sequence i operands).All P := by
  induction operands with
  | nil => trivial
  | cons o rest ih =>
    obtain ⟨first, later⟩ := List.forall_mem_cons.mp all
    cases o with
    | program p => exact ⟨first p rfl, fun _ => ih later⟩
    | _ => trivial

namespace Tree

mutual

/-- The computation of a tree. -/
def program (i : Interpreter) : Tree Operand → Program
  | case o => o.orRefusing i
  | group children => .body (.ofList .none (programs i children))
  | label name child => .nest name (child.program i)
  | stray found => .fail (.mismatch (.treeNode found))

def programs (i : Interpreter) : List (Tree Operand) → List Program
  | [] => []
  | child :: rest => child.program i :: programs i rest

end

theorem sequence_programs (i : Interpreter) (ps : List Program) :
    Body.sequence i (ps.map .program) = .ofList .none ps := by
  induction ps with
  | nil => rfl
  | cons p rest ih => simp only [List.map_cons, Body.sequence, Body.yieldOperand, Operand.require,
      ih, Body.ofList]

mutual

theorem compile_program (i : Interpreter) :
    ∀ tree : Tree Operand, tree.All Operand.IsComputation →
      tree.compile i = .ok (.program (tree.program i))
  | case _, ⟨_, rfl⟩ => rfl
  | group children, h => by
    rw [compile, compileAll_programs i children h]
    simp only [bind, Except.bind, sequence_programs]
    rfl
  | label name child, h => by
    rw [compile, compile_program i child h]
    rfl
  | stray _, h => h.elim

theorem compileAll_programs (i : Interpreter) :
    ∀ trees : List (Tree Operand), AllOf Operand.IsComputation trees →
      compileAll i trees = .ok ((programs i trees).map .program)
  | [], _ => rfl
  | child :: rest, h => by
    rw [compileAll, compile_program i child h.1, compileAll_programs i rest h.2]
    rfl

end

mutual

/-- The computation of a tree makes the requests of its payloads. -/
theorem compile_all {P : Request → Prop} (i : Interpreter) :
    ∀ (tree : Tree Operand) {o : Operand}, tree.All (Operand.All P) →
      tree.compile i = .ok o → o.All P
  | case payload, o, all, h => by
    cases h
    exact all
  | group children, o, all, h => by
    simp only [compile, Outcome.bind_eq_ok] at h
    obtain ⟨operands, compiled, ho⟩ := h
    cases ho
    rintro p hp
    cases hp
    exact Body.sequence_all i (compileAll_all i children all compiled)
  | label name child, o, all, h => by
    simp only [compile, Outcome.bind_eq_ok] at h
    obtain ⟨inner, compiled, nested⟩ := h
    simp only [Operand.nest, Outcome.map_eq_ok] at nested
    obtain ⟨q, hq, ho⟩ := nested
    cases inner with
    | program q' =>
      cases hq
      rintro p hp
      cases ho.trans hp
      exact compile_all i child all compiled q rfl
    | _ => cases hq
  | stray _, _, all, _ => all.elim

theorem compileAll_all {P : Request → Prop} (i : Interpreter) :
    ∀ (trees : List (Tree Operand)) {operands : List Operand}, AllOf (Operand.All P) trees →
      compileAll i trees = .ok operands → ∀ o ∈ operands, o.All P
  | [], _, _, h => by
    cases h
    exact nofun
  | child :: rest, _, all, h => by
    simp only [compileAll, Outcome.bind_eq_ok, Outcome.pure_eq_ok] at h
    obtain ⟨o, first, later, second, rfl⟩ := h
    exact List.forall_mem_cons.mpr
      ⟨compile_all i child all.1 first, compileAll_all i rest all.2 second⟩

end

/-- What a tree makes of a pass over its agenda. -/
def tally (tree : Tree Operand) (runs : List Run) (last : Environment) :
    Value × Aftermath × Nat :=
  (tree.value (runs.map Run.value), .environment last,
    tree.childCount + Run.totalTicks runs)

variable {server : Responder}

theorem tally_eq {run : Run} {tree : Tree Operand} {runs : List Run} {last : Environment} :
    run.tally = tree.tally runs last ↔ run.value = tree.value (runs.map Run.value) ∧
      run.left = .environment last ∧ run.ticks = tree.childCount + Run.totalTicks runs := by
  simp only [Run.tally, tally, Prod.mk.injEq]

/-- A child, its tick, and the rest of a group. -/
theorem andThen_tally {child : Tree Operand} {rest : List (Tree Operand)} {run more : Run}
    {done others : List Run} {u last : Environment} (hf : run.tally = child.tally done u)
    (hs : more.tally = (group rest).tally others last) :
    (run.andThen more).tally = (group (child :: rest)).tally (done ++ others) last := by
  obtain ⟨_, _, hd⟩ := tally_eq.mp hf
  obtain ⟨hv, hl, ho⟩ := tally_eq.mp hs
  refine tally_eq.mpr ⟨hv, hl, ?_⟩
  rw [Run.ticks_andThen, hd, ho, Run.totalTicks_append]
  simp only [childCount, childCountOf]
  omega

mutual

/-- A tree under the labels of `path` comes to what a pass around `base` comes to, but that it goes
back to the labels around it. -/
theorem program_tally :
    ∀ (tree : Tree Operand), tree.All Operand.IsComputation →
      tree.All (Operand.KeepsContext server) → ∀ (base path : List Value) (e : Environment),
      e.context = base ++ path →
        ((tree.program .simulated).trace server e).map Run.tally =
          (Stage.pass server base (tree.agenda path) { e with context := base }).map
            fun (runs, last) => tree.tally runs { last with context := e.context }
  | case _, ⟨p, rfl⟩, keeps, base, path, e, hc => by
    have here := Environment.with_context hc
    change (p.trace server e).map Run.tally = _
    simp only [agenda, Stage.pass, here, Operand.trace, Operand.require, bind, Except.bind]
    cases hp : p.trace server e with
    | error => rfl
    | ok run =>
      have returned : p.simulate server e = .ok run.result := by
        rw [← p.trace_result server e, hp, Except.map]
      obtain ⟨left, hl, hk⟩ := keeps p rfl e run.value run.left returned
      have back := Environment.with_context hk
      simp [hl, Aftermath.require, Except.map, pure, Except.pure, Run.tally, tally, value,
        childCount, Run.totalTicks, back]
  | group children, runs, keeps, base, path, e, hc => by
    rw [program, Program.trace, agenda, programs_tally children runs keeps base path e hc]
  | label name child, runs, keeps, base, path, e, hc => by
    have inner := program_tally child runs keeps base (path ++ [name])
      { e with context := e.context ++ [name] } (by simp only [hc, List.append_assoc])
    rw [program, Program.trace, agenda]
    obtain ⟨error, hp, hs⟩ | ⟨run, ⟨runs, last⟩, hp, hs, same⟩ := Outcome.map_eq_map inner
    · rw [hp, hs]
      rfl
    · rw [hp, hs]
      obtain ⟨hv, hl, ht⟩ := tally_eq.mp same
      simp only [bind, Except.bind, pure, Except.pure, Except.map, hl, Aftermath.withContext]
      refine congrArg _ (tally_eq.mpr ⟨hv, rfl, ?_⟩)
      rw [Run.ticks_under, ht, childCount]
  | stray _, runs, _, _, _, _, _ => runs.elim

theorem programs_tally :
    ∀ (trees : List (Tree Operand)), AllOf Operand.IsComputation trees →
      AllOf (Operand.KeepsContext server) trees → ∀ (base path : List Value) (e : Environment),
      e.context = base ++ path →
        ((Body.ofList .none (programs .simulated trees)).trace server e).map Run.tally =
          (Stage.pass server base (agendaOf path trees) { e with context := base }).map
            fun (runs, last) => (group trees).tally runs { last with context := e.context }
  | [], _, _, base, path, e, hc => by
    have here := Environment.with_context (e := e) rfl
    rw [programs, Body.ofList, Body.trace, agendaOf, Stage.pass]
    simp only [Except.map, here]
    rfl
  | child :: rest, runs, keeps, base, path, e, hc => by
    have first := program_tally child runs.1 keeps.1 base path e hc
    rw [programs, Body.ofList, Body.trace, agendaOf, Stage.pass_append]
    obtain ⟨error, hp, hs⟩ | ⟨run, ⟨done, u⟩, hp, hs, same⟩ := Outcome.map_eq_map first
    · rw [hp, hs]
      rfl
    · rw [hp, hs]
      -- The pass goes on around `base`, the body with the labels: only the context differs.
      have settled : u.context = base := Stage.pass_context hs rfl
      simp only [bind, Except.bind, (tally_eq.mp same).2.1, Aftermath.require, Stage.pass,
        Environment.advance_context]
      cases ha : u.advance with
      | error => rfl
      | ok w =>
        have here : { w with context := base } = w := by
          obtain ⟨clock, _, rfl⟩ := Environment.advance_ok ha
          exact Environment.with_context settled
        have later := programs_tally rest runs.2 keeps.2 base path
          { w with context := e.context } hc
        simp only [here] at later
        simp only [Except.map]
        obtain ⟨error, hq, hr⟩ | ⟨more, ⟨others, last⟩, hq, hr, rest_same⟩ :=
          Outcome.map_eq_map later
        · rw [hq, hr]
        · rw [hq, hr]
          exact congrArg _ (andThen_tally same rest_same)

end

mutual

theorem program_perform {σ : Type} (m : Machine σ) (base : List Value) :
    ∀ (tree : Tree Operand), tree.All Operand.IsComputation → ∀ (path : List Value) (h : Host σ),
      (tree.program .host).perform m (base ++ path) h =
        Host.andThen (Stage.perform m base ((tree.agenda path).filterMap Stage.case?) h)
          fun values h => (.ok (tree.value values), h)
  | case o, _, path, h => by
    have single : ((case o : Tree Operand).agenda path).filterMap Stage.case? = [(path, o)] := rfl
    rw [program, single, Stage.perform, Host.andThen_assoc]
    rcases (o.orRefusing .host).perform m (base ++ path) h with ⟨_ | _, _⟩ <;> rfl
  | group children, runs, path, h => by
    rw [program, Program.perform, programs_perform m base children runs path h]
    rfl
  | label name child, runs, path, h => by
    rw [program, Program.perform, List.append_assoc,
      program_perform m base child runs (path ++ [name]) h]
    rfl
  | stray _, runs, _, _ => runs.elim

theorem programs_perform {σ : Type} (m : Machine σ) (base : List Value) :
    ∀ (trees : List (Tree Operand)), AllOf Operand.IsComputation trees →
      ∀ (path : List Value) (h : Host σ),
      (Body.ofList .none (programs .host trees)).perform m (base ++ path) h =
        Host.andThen (Stage.perform m base ((agendaOf path trees).filterMap Stage.case?) h)
          fun _ h => (.ok .none, h)
  | [], _, _, _ => rfl
  | child :: rest, runs, path, h => by
    have first := program_perform m base child runs.1 path
    have later := programs_perform m base rest runs.2 path
    simp only [programs, Body.ofList, Body.perform, first, later, agendaOf,
      List.filterMap_append, List.filterMap_cons, Stage.case?, Stage.perform_append,
      Host.andThen_assoc, Host.andThen_ok]

end

/-- From an environment as it is, without labels around. -/
theorem program_pass {tree : Tree Operand} (runs : tree.All Operand.IsComputation)
    (keeps : tree.All (Operand.KeepsContext server)) (s : Environment) :
    ((tree.program .simulated).trace server s).map Run.tally =
      (Stage.pass server s.context (tree.agenda []) s).map
        fun (cases, last) => tree.tally cases last := by
  have tallied := program_tally tree runs keeps s.context [] s (List.append_nil _).symm
  have here := Environment.with_context (e := s) rfl
  simp only [here] at tallied
  rw [tallied]
  cases hp : Stage.pass server s.context (tree.agenda []) s with
  | error => rfl
  | ok result =>
    have back := Environment.with_context (Stage.pass_context hp rfl)
    simp only [Except.map, back]

/-- Running a tree is running its cases from the flat view, in order, each under its labels. A
simulated run takes one tick after every child of a group, and those of the cases. -/
theorem runs_as_cases (tree : Tree Operand) (runs : tree.All Operand.IsComputation) :
    tree.cases [] = .ok ((tree.agenda []).filterMap Stage.case?) ∧
    (tree.agenda []).countP Stage.isTick = tree.childCount ∧
    (∀ server, tree.All (Operand.KeepsContext server) →
      ∃ p, tree.compile .simulated = .ok (.program p) ∧ ∀ s,
        p.simulate server s =
            (Stage.pass server s.context (tree.agenda []) s).map (fun (cases, last) =>
              (tree.value (cases.map Run.value), .environment last)) ∧
          (p.trace server s).map Run.tally =
            (Stage.pass server s.context (tree.agenda []) s).map fun (cases, last) =>
              (tree.value (cases.map Run.value), .environment last,
                tree.childCount + Run.totalTicks cases)) ∧
    (∃ p, tree.compile .host = .ok (.program p) ∧
      ∀ (σ : Type) (m : Machine σ) (context : List Value) (h : Host σ),
        p.perform m context h =
          Host.andThen (Stage.perform m context ((tree.agenda []).filterMap Stage.case?) h)
            fun values h => (.ok (tree.value values), h)) := by
  refine ⟨cases_agenda [] runs, agenda_ticks tree [], fun server keeps => ?_, ?_⟩
  · refine ⟨_, compile_program .simulated tree runs, fun s => ⟨?_, program_pass runs keeps s⟩⟩
    rw [← Program.trace_result]
    obtain ⟨error, hp, hs⟩ | ⟨run, ⟨cases, last⟩, hp, hs, same⟩ :=
      Outcome.map_eq_map (program_pass runs keeps s)
    · rw [hp, hs]
      rfl
    · rw [hp, hs]
      obtain ⟨hv, hl, _⟩ := tally_eq.mp same
      rw [Except.map, Except.map, Run.result, hv, hl]
  · refine ⟨_, compile_program .host tree runs, fun σ m context h => ?_⟩
    have performed := program_perform m context tree runs [] h
    rwa [List.append_nil] at performed

/-- A case under a label, an empty group, and a case that writes. -/
def suite : Tree Operand :=
  group [label (.text "inner") (case (.program (.ask .context))), group [],
    case (.program (.put .stdout (.text "done")))]

theorem suite_runs_as_cases :
    suite.All Operand.IsComputation ∧ suite.All (Operand.KeepsContext .unreachable) ∧
      suite.childCount = 3 ∧
      ∃ p, suite.compile .simulated = .ok (.program p) ∧ ∀ s,
        p.simulate .unreachable s =
          (Stage.pass .unreachable s.context (suite.agenda []) s).map fun (cases, last) =>
            (suite.value (cases.map Run.value), .environment last) := by
  have runs : suite.All Operand.IsComputation :=
    ⟨⟨_, rfl⟩, trivial, ⟨_, rfl⟩, trivial⟩
  have keepsContext {p : Program} (h : p.All Request.KeepsEnvironment) :
      (Operand.program p).KeepsContext .unreachable := by
    intro q hq
    cases hq
    exact Program.keepsContext_of_all h
  have keeps : suite.All (Operand.KeepsContext .unreachable) :=
    ⟨keepsContext trivial, trivial, keepsContext trivial, trivial⟩
  obtain ⟨_, _, simulated, _⟩ := runs_as_cases suite runs
  obtain ⟨p, hp, passes⟩ := simulated .unreachable keeps
  exact ⟨runs, keeps, rfl, p, hp, fun s => (passes s).1⟩

end Tree

end Rehearsal
