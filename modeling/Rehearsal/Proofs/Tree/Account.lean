import Rehearsal.Proofs.Run.Scope
import Rehearsal.Proofs.Summary.Fold
import Rehearsal.Proofs.Tree.Flat

/-!
# The account of a suite

A suite reports the assertions that its run adds to the environment, whatever the environment held
before. Its summary is put together from those of its cases, in the order of the flat view, and it
counts every assertion that is recorded and no other one. Run as suites of their own, one after the
other with a tick in between, the children of a group report the same.
-/

namespace Rehearsal

namespace Event

def isRecord : Event → Bool
  | .asked (.record _) _ _ => true
  | _ => false

/-- Every request that records an assertion brings one. -/
theorem length_recorded (events : List Event) :
    (events.flatMap recorded).length = events.countP isRecord := by
  induction events with
  | nil => rfl
  | cons event rest ih =>
    rw [List.flatMap_cons, List.length_append, ih, List.countP_cons, Nat.add_comm]
    congr 1
    cases event with
    | asked r v left => cases r <;> rfl
    | _ => rfl

end Event

/-- A run that puts no other environment in place adds the assertions that it records. -/
theorem Program.simulate_records {server : Responder} {p : Program} {s : Environment} {v : Value}
    {after : Aftermath} (keeps : p.All Request.KeepsEnvironment)
    (h : p.simulate server s = .ok (v, after)) :
    ∃ t events, after = .environment t ∧ p.trace server s = .ok ⟨v, .environment t, events⟩ ∧
      t.assertions = s.assertions ++ events.flatMap Event.recorded := by
  obtain ⟨events, traced⟩ := Program.trace_of_simulate h
  obtain ⟨t, ht, _, walked⟩ := p.trace_walks keeps traced
  cases ht
  exact ⟨t, events, rfl, traced, walked.assertions⟩

/-- An operand that can be run puts no other environment in place. -/
def Operand.KeepsEnvironment (o : Operand) : Prop :=
  ∀ p, o = .program p → p.All Request.KeepsEnvironment

theorem Operand.simulate_ok {server : Responder} {o : Operand} {e : Environment}
    {r : Value × Aftermath} (h : o.simulate server e = .ok r) :
    ∃ p, o = .program p ∧ p.simulate server e = .ok r := by
  cases o with
  | program p => exact ⟨p, rfl, h⟩
  | _ => cases h

/-- A case that was run: the labels around it, and the environments before and after. -/
structure CaseRun where
  path : List Value
  payload : Operand
  before : Environment
  after : Environment

namespace CaseRun

def added (c : CaseRun) : List Assertion := c.after.assertions.drop c.before.assertions.length

def summary (c : CaseRun) : Summary := .ofList c.added

end CaseRun

/-- A pass over the stages of an agenda around a context, with the cases that it ran. -/
inductive Stage.Passes (server : Responder) (base : List Value) :
    List (Stage Operand) → Environment → List CaseRun → Environment → Prop where
  | done (e : Environment) : Passes server base [] e [] e
  | tick {e u t : Environment} {rest : List (Stage Operand)} {ran : List CaseRun}
      (moved : e.advance = .ok u) (later : Passes server base rest u ran t) :
      Passes server base (.tick :: rest) e ran t
  | case {path : List Value} {o : Operand} {v : Value} {e left t : Environment}
      {rest : List (Stage Operand)} {ran : List CaseRun}
      (returned : o.simulate server { e with context := base ++ path } =
        .ok (v, .environment left))
      (later : Passes server base rest { left with context := base } ran t) :
      Passes server base (.case path o :: rest) e (⟨path, o, e, left⟩ :: ran) t

namespace Stage

variable {server : Responder} {base : List Value} {stages : List (Stage Operand)}
  {s t : Environment} {ran : List CaseRun}

/-- A pass that returns ran the cases one after the other. -/
theorem passes_of_pass {runs : List Run} (h : pass server base stages s = .ok (runs, t)) :
    ∃ ran, Passes server base stages s ran t := by
  induction stages generalizing s runs with
  | nil =>
    cases h
    exact ⟨[], .done _⟩
  | cons stage rest ih =>
    cases stage with
    | tick =>
      simp only [pass, Outcome.bind_eq_ok] at h
      obtain ⟨u, moved, h⟩ := h
      obtain ⟨ran, later⟩ := ih h
      exact ⟨ran, .tick moved later⟩
    | case path o =>
      simp only [pass, Outcome.bind_eq_ok, Outcome.pure_eq_ok, Aftermath.require_ok] at h
      obtain ⟨run, traced, left, hl, ⟨more, last⟩, h, he⟩ := h
      cases he
      obtain ⟨ran, later⟩ := ih h
      have returned : o.simulate server { s with context := base ++ path } =
          .ok (run.value, .environment left) := by
        rw [← o.trace_result server, traced, ← hl]
        rfl
      exact ⟨_, .case returned later⟩

/-- The cases that a pass ran are those of its stages. -/
theorem Passes.cases (h : Passes server base stages s ran t) :
    ran.map (fun c => (c.path, c.payload)) = stages.filterMap Stage.case? := by
  induction h with
  | done => rfl
  | tick _ _ ih => exact ih
  | case _ _ ih => rw [List.map_cons, ih, List.filterMap_cons, Stage.case?]

/-- What a pass adds to the assertions is what each of its cases added, one after the other. -/
theorem Passes.added (h : Passes server base stages s ran t)
    (keeps : ∀ path o, .case path o ∈ stages → o.KeepsEnvironment) :
    t.assertions = s.assertions ++ (ran.map CaseRun.added).flatten ∧
      ∀ c ∈ ran, c.after.assertions = c.before.assertions ++ c.added := by
  induction h with
  | done => exact ⟨(List.append_nil _).symm, nofun⟩
  | tick moved _ ih =>
    obtain ⟨clock, _, rfl⟩ := Environment.advance_ok moved
    exact ih fun path o ho => keeps path o (List.mem_cons_of_mem _ ho)
  | @case path o v e left t rest ran returned _ ih =>
    obtain ⟨p, rfl, returned⟩ := Operand.simulate_ok returned
    obtain ⟨u, events, hu, _, grown⟩ :=
      Program.simulate_records (keeps path _ List.mem_cons_self p rfl) returned
    cases hu
    obtain ⟨whole, each⟩ := ih fun path o ho => keeps path o (List.mem_cons_of_mem _ ho)
    have here :
        left.assertions = e.assertions ++ (⟨path, .program p, e, left⟩ : CaseRun).added := by
      rw [CaseRun.added, grown, List.drop_left]
    refine ⟨?_, List.forall_mem_cons.mpr ⟨here, each⟩⟩
    rw [whole, here, List.map_cons, List.flatten_cons, List.append_assoc]

end Stage

namespace Tree

variable {server : Responder}

mutual

theorem keeps_of_mem_agenda :
    ∀ (tree : Tree Operand) (base : List Value), tree.All Operand.KeepsEnvironment →
      ∀ path o, .case path o ∈ tree.agenda base → o.KeepsEnvironment
  | case payload, base, keeps, path, o, ho => by
    cases List.mem_singleton.mp ho
    exact keeps
  | group children, base, keeps, path, o, ho =>
    keeps_of_mem_agendaOf children base keeps path o ho
  | label name child, base, keeps, path, o, ho =>
    keeps_of_mem_agenda child (base ++ [name]) keeps path o ho
  | stray _, _, keeps, _, _, _ => keeps.elim

theorem keeps_of_mem_agendaOf :
    ∀ (trees : List (Tree Operand)) (base : List Value), AllOf Operand.KeepsEnvironment trees →
      ∀ path o, .case path o ∈ agendaOf base trees → o.KeepsEnvironment
  | [], _, _, _, _, ho => by cases ho
  | child :: rest, base, keeps, path, o, ho => by
    rw [agendaOf, List.mem_append, List.mem_cons] at ho
    obtain here | tick | later := ho
    · exact keeps_of_mem_agenda child base keeps.1 path o here
    · cases tick
    · exact keeps_of_mem_agendaOf rest base keeps.2 path o later

end

mutual

/-- The computation of a tree keeps the environment if all of its payloads do. -/
theorem program_keeps (i : Interpreter) :
    ∀ tree : Tree Operand, tree.All Operand.KeepsEnvironment →
      (tree.program i).All Request.KeepsEnvironment
  | case o, keeps => by
    cases o with
    | program p => exact keeps p rfl
    | _ => exact trivial
  | group children, keeps => programs_keep i children keeps
  | label _ child, keeps => program_keeps i child keeps
  | stray _, _ => trivial

theorem programs_keep (i : Interpreter) :
    ∀ trees : List (Tree Operand), AllOf Operand.KeepsEnvironment trees →
      (Body.ofList .none (programs i trees)).All Request.KeepsEnvironment
  | [], _ => trivial
  | child :: rest, keeps => ⟨program_keeps i child keeps.1, fun _ => programs_keep i rest keeps.2⟩

end

theorem keepsContext_of_keeps (tree : Tree Operand) (keeps : tree.All Operand.KeepsEnvironment) :
    tree.All (Operand.KeepsContext server) :=
  All.mono (fun _ kept p hp => Program.keepsContext_of_all (kept p hp)) tree keeps

mutual

/-- A tree whose run returns has a computation in every case, since no case is left out. -/
theorem computations_of_returns :
    ∀ (tree : Tree Operand) (o : Operand) (e : Environment) (r : Value × Aftermath),
      tree.compile .simulated = .ok o → o.simulate server e = .ok r →
        tree.All Operand.IsComputation
  | case payload, o, e, r, compiled, returned => by
    cases compiled
    obtain ⟨p, hp, _⟩ := Operand.simulate_ok returned
    exact ⟨p, hp⟩
  | group children, o, e, r, compiled, returned => by
    simp only [compile, Outcome.bind_eq_ok] at compiled
    obtain ⟨operands, compiled, ho⟩ := compiled
    cases ho
    exact computations_of_returnsOf children operands e r compiled returned
  | label name child, o, e, r, compiled, returned => by
    simp only [compile, Outcome.bind_eq_ok] at compiled
    obtain ⟨inner, compiled, nested⟩ := compiled
    cases inner with
    | program p =>
      cases nested
      have under : (Program.nest name p).simulate server e = .ok r := returned
      simp only [Program.simulate, Outcome.bind_eq_ok] at under
      obtain ⟨result, under, _⟩ := under
      exact computations_of_returns child (.program p) _ result compiled under
    | _ => cases nested
  | stray _, _, _, _, compiled, _ => by cases compiled

theorem computations_of_returnsOf :
    ∀ (trees : List (Tree Operand)) (operands : List Operand) (e : Environment)
      (r : Value × Aftermath), compileAll .simulated trees = .ok operands →
        (Body.sequence .simulated operands).simulate server e = .ok r →
          AllOf Operand.IsComputation trees
  | [], _, _, _, _, _ => trivial
  | child :: rest, operands, e, r, compiled, returned => by
    simp only [compileAll, Outcome.bind_eq_ok, Outcome.pure_eq_ok] at compiled
    obtain ⟨o, first, later, second, rfl⟩ := compiled
    cases o with
    | program p =>
      simp only [Body.sequence, Body.yieldOperand, Operand.require, Body.simulate,
        Outcome.bind_eq_ok] at returned
      obtain ⟨result, here, _, _, resumed, _, there⟩ := returned
      exact ⟨computations_of_returns child (.program p) e result first here,
        computations_of_returnsOf rest later resumed r second there⟩
    | _ => cases returned

end

/-- A suite that returns is the run of the computation of its tree. -/
theorem simulate_ok {tree : Tree Operand} {s t : Environment} {summary : Summary}
    (h : tree.simulate server s = .ok (summary, t)) :
    tree.All Operand.IsComputation ∧
      ∃ v, (tree.program .simulated).simulate server s = .ok (v, .environment t) ∧
        summary = .ofList (t.assertions.drop s.assertions.length) := by
  simp only [Tree.simulate, Outcome.bind_eq_ok, Outcome.pure_eq_ok, Aftermath.require_ok] at h
  obtain ⟨o, compiled, ⟨v, after⟩, returned, left, hl, he⟩ := h
  cases he
  have runs := computations_of_returns tree o s _ compiled returned
  rw [compile_program .simulated tree runs] at compiled
  cases compiled
  cases hl
  exact ⟨runs, v, returned, rfl⟩

theorem simulate_of_program {tree : Tree Operand} (runs : tree.All Operand.IsComputation)
    {s t : Environment} {v : Value}
    (h : (tree.program .simulated).simulate server s = .ok (v, .environment t)) :
    tree.simulate server s = .ok (.ofList (t.assertions.drop s.assertions.length), t) := by
  rw [Tree.simulate, compile_program .simulated tree runs]
  simp only [bind, Except.bind, Operand.simulate, Operand.require, h, Aftermath.require]
  rfl

/-- Runs trees as suites of their own, with a tick after each. -/
def suites (server : Responder) : List (Tree Operand) → Environment →
    Outcome (List Summary × Environment)
  | [], e => .ok ([], e)
  | child :: rest, e => do
    let (summary, left) ← child.simulate server e
    let (more, last) ← suites server rest (← left.advance)
    return (summary :: more, last)

/-- The children of a group, as suites of their own, report what the group adds. -/
theorem suites_of_programs (trees : List (Tree Operand)) (runs : AllOf Operand.IsComputation trees)
    (keeps : AllOf Operand.KeepsEnvironment trees) {s t : Environment} {v : Value}
    (h : (Body.ofList .none (programs .simulated trees)).simulate server s =
      .ok (v, .environment t)) :
    ∃ summaries added, suites server trees s = .ok (summaries, t) ∧
      t.assertions = s.assertions ++ added ∧ Summary.ofList added = .combineAll summaries := by
  induction trees generalizing s with
  | nil =>
    cases h
    exact ⟨[], [], rfl, (List.append_nil _).symm, rfl⟩
  | cons child rest ih =>
    simp only [programs, Body.ofList, Body.simulate, Outcome.bind_eq_ok] at h
    obtain ⟨⟨w, after⟩, first, left, hl, resumed, moved, second⟩ := h
    obtain ⟨u, events, rfl, _, grown⟩ :=
      Program.simulate_records (program_keeps .simulated child keeps.1) first
    cases hl
    obtain ⟨more, added, later, whole, combined⟩ := ih runs.2 keeps.2 second
    obtain ⟨clock, _, rfl⟩ := Environment.advance_ok moved
    have here := simulate_of_program runs.1 first
    rw [grown, List.drop_left] at here
    refine ⟨.ofList (events.flatMap Event.recorded) :: more,
      events.flatMap Event.recorded ++ added, ?_, ?_, ?_⟩
    · simp only [suites, bind, Except.bind, here, moved, later]
      rfl
    · rw [whole, ← List.append_assoc]
      exact congrArg (· ++ added) grown
    · rw [Summary.ofList_append, combined, Summary.combineAll_cons]

/-- What a suite reports of a run, which ran the cases and executed the events. -/
structure Account (server : Responder) (tree : Tree Operand) (s : Environment)
    (ran : List CaseRun) (events : List Event) (summary : Summary) (t : Environment) : Prop where
  cases : tree.cases [] = .ok (ran.map fun c => (c.path, c.payload))
  passed : Stage.Passes server s.context (tree.agenda []) s ran t
  executed : ∃ o v, tree.compile .simulated = .ok o ∧
    o.trace server s = .ok ⟨v, .environment t, events⟩
  grown : t.assertions = s.assertions ++ events.flatMap Event.recorded
  added : ∀ c ∈ ran, c.after.assertions = c.before.assertions ++ c.added
  combined : summary = .combineAll (ran.map CaseRun.summary)
  total : summary.successes + summary.failures = events.countP Event.isRecord
  failed : summary.failed = (events.flatMap Event.recorded).filter (!·.isSuccess)
  grouped : ∀ children, tree = group children → ∃ summaries,
    suites server children s = .ok (summaries, t) ∧ summary = .combineAll summaries

/-- A suite accounts for every assertion of its run and for nothing else. -/
theorem simulate_account (server : Responder) (tree : Tree Operand) (s t : Environment)
    (summary : Summary) (keeps : tree.All Operand.KeepsEnvironment)
    (h : tree.simulate server s = .ok (summary, t)) :
    ∃ ran events, tree.Account server s ran events summary t := by
  obtain ⟨runs, v, returned, reported⟩ := simulate_ok h
  obtain ⟨_, events, ht, traced, grown⟩ :=
    Program.simulate_records (program_keeps .simulated tree keeps) returned
  cases ht
  rw [grown, List.drop_left] at reported
  -- The run of the computation is a pass over the agenda, and so runs the cases.
  have contexts : tree.All (Operand.KeepsContext server) := keepsContext_of_keeps tree keeps
  have tallied := program_pass runs contexts s
  rw [traced] at tallied
  obtain ⟨_, hr, _⟩ | ⟨run, ⟨cases, last⟩, hr, passed, same⟩ := Outcome.map_eq_map tallied
  · cases hr
  cases hr
  obtain ⟨_, hl, _⟩ := tally_eq.mp same
  cases hl
  obtain ⟨ran, passes⟩ := Stage.passes_of_pass passed
  obtain ⟨whole, added⟩ := passes.added (keeps_of_mem_agenda tree [] keeps)
  have pieces : events.flatMap Event.recorded = (ran.map CaseRun.added).flatten :=
    List.append_cancel_left (grown.symm.trans whole)
  refine ⟨ran, events, ?_, passes, ?_, grown, added, ?_, ?_, ?_, ?_⟩
  · rw [passes.cases]
    exact cases_agenda [] runs
  · exact ⟨_, v, compile_program .simulated tree runs, traced⟩
  · rw [reported, pieces, Summary.ofList_flatten, List.map_map]
    rfl
  · rw [reported, ← Event.length_recorded]
    exact Summary.total_ofList _
  · rw [reported, Summary.failed_ofList]
  · rintro children rfl
    obtain ⟨summaries, more, suites, hm, combined⟩ :=
      suites_of_programs children runs keeps returned
    refine ⟨summaries, suites, ?_⟩
    rw [reported, ← combined, List.append_cancel_left (grown.symm.trans hm)]

/-- A case that holds under a label, an empty group, and a case that fails. -/
def graded : Tree Operand :=
  group [label (.text "sums") (case (.program (.assertThat true "1 is 1" "counts"))), group [],
    case (.program (.assertThat false "1 is 2" "counts too far"))]

/-- An environment in which something was recorded before. -/
def recounting : Environment :=
  { Environment.fresh with assertions := [.ofBool false "0 is 1" "before" "from an earlier run"] }

theorem graded_account :
    graded.All Operand.KeepsEnvironment ∧
      ∃ summary t, graded.simulate .unreachable recounting = .ok (summary, t) ∧
        summary.successes = 1 ∧ summary.failures = 1 ∧
        ∃ ran events, graded.Account .unreachable recounting ran events summary t := by
  have keepsOne (holds : Bool) (statement comment : Wording) :
      (Operand.program (.assertThat holds statement comment)).KeepsEnvironment := by
    rintro p hp
    cases hp
    exact ⟨trivial, fun _ => trivial⟩
  have keeps : graded.All Operand.KeepsEnvironment :=
    ⟨keepsOne _ _ _, trivial, keepsOne _ _ _, trivial⟩
  have counted : (graded.simulate .unreachable recounting).toOption.map
      (fun r => (r.1.successes, r.1.failures)) = some (1, 1) := by decide +kernel
  cases h : graded.simulate .unreachable recounting with
  | error e =>
    rw [h] at counted
    cases counted
  | ok r =>
    rw [h, Except.toOption, Option.map_some, Option.some.injEq, Prod.mk.injEq] at counted
    exact ⟨keeps, r.1, r.2, rfl, counted.1, counted.2, graded.simulate_account _ _ _ _ keeps h⟩

end Tree

end Rehearsal
