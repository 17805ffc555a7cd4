import Rehearsal.Proofs.Summary.Fold
import Rehearsal.Proofs.Value.Whole
import Rehearsal.Value.Summary

/-!
# Summaries in any grouping

Assertions may be summarized where they were made and their summaries added up later, two at a time
or many at once and to any depth. Every summary that is built on the way is accepted by the
check of its counts, and the last one is that of the assertions in a row.
-/

namespace Rehearsal

namespace Value

/-- Counts of things are not below zero. -/
theorem summaryOf_counts (successes failures : Nat) (failed : List Value) :
    summaryOf (int successes) (int failures) failed =
      .ok (summary (int successes) (int failures) failed) := by
  have natural (n : Nat) : (int n).less (int 0) = .ok false := by
    rw [less, less_integers rfl rfl, decide_eq_false (by omega)]
  rw [summaryOf, natural, natural]
  rfl

theorem summaryOfAssertion_eq (a : Assertion) :
    summaryOfAssertion a = .ok (ofSummary (.ofAssertion a)) := by
  rw [summaryOfAssertion, Summary.ofAssertion]
  cases a.isSuccess with
  | true => exact summaryOf_counts 1 0 []
  | false => exact summaryOf_counts 0 1 [assertion a]

theorem add_summaries (origin : Origin) (x y : Summary) :
    (ofSummary x).add origin (ofSummary y) = .ok (ofSummary (x.combine y)) := by
  have sum (m n : Nat) : addNumbers origin (int m) (int n) = some (.ok (int ↑(m + n))) := rfl
  have built := summaryOf_counts (x.successes + y.successes) (x.failures + y.failures)
    (x.failed.map assertion ++ y.failed.map assertion)
  simp only [ofSummary, add, sum, Option.getD_some, Summary.combine, List.map_append]
  exact built

/-- Summaries that are added up onto another one. -/
theorem foldlM_add (origin : Origin) (x : Summary) (ys : List Summary) :
    (ys.map ofSummary).foldlM (add origin) (ofSummary x) =
      .ok (ofSummary (ys.foldl Summary.combine x)) := by
  induction ys generalizing x with
  | nil => rfl
  | cons y rest ih =>
    rw [List.map_cons, List.foldlM_cons, add_summaries]
    exact ih (x.combine y)

theorem summarizeAll_summaries (origin : Origin) (summaries : List Summary) :
    summarizeAll origin (summaries.map ofSummary) = .ok (ofSummary (.combineAll summaries)) :=
  foldlM_add origin .empty summaries

/-- What was wrapped for each one of a list is read back from all of them. -/
theorem mapM_wrapped {m : Type → Type} [Monad m] [LawfulMonad m] {α β : Type} (wrap : α → β)
    (read : β → m α) (reads : ∀ a, read (wrap a) = pure a) (items : List α) :
    (items.map wrap).mapM read = pure items := by
  have composed : read ∘ wrap = fun a => pure (id a) := funext reads
  rw [List.mapM_map, composed, List.mapM_pure, List.map_id]

theorem summarize_assertions (assertions : List Assertion) :
    summarize (assertions.map assertion) = .ok (ofSummary (.ofList assertions)) := by
  have items : (assertions.map assertion).mapM asAssertion = .ok assertions :=
    mapM_wrapped assertion asAssertion (fun _ => rfl) assertions
  have singles : assertions.mapM summaryOfAssertion =
      .ok ((assertions.map .ofAssertion).map ofSummary) := by
    have single : summaryOfAssertion = fun a => pure (ofSummary (.ofAssertion a)) :=
      funext summaryOfAssertion_eq
    rw [single, List.mapM_pure, List.map_map]
    rfl
  rw [summarize, items]
  change assertions.mapM summaryOfAssertion >>= summarizeAll [] = _
  rw [singles]
  exact summarizeAll_summaries [] (assertions.map .ofAssertion)

theorem toSummary?_ofSummary (s : Summary) : (ofSummary s).toSummary? = some s := by
  have failed : (s.failed.map assertion).mapM assertion? = some s.failed :=
    mapM_wrapped assertion assertion? (fun _ => rfl) s.failed
  simp only [ofSummary, toSummary?, failed]
  rfl

theorem summaryLines_ofSummary (color : Bool) (s : Summary) :
    (ofSummary s).summaryLines color = .ok (s.render color) := by
  simp only [summaryLines, toSummary?_ofSummary]

end Value

/-- Assertions with the order in which their summaries are combined: two summaries make one, and
so does any number of them. -/
inductive Grouping where
  | single (a : Assertion)
  | pair (x y : Grouping)
  | group (parts : List Grouping)

namespace Grouping

mutual

/-- The assertions in a row. -/
def assertions : Grouping → List Assertion
  | single a => [a]
  | pair x y => x.assertions ++ y.assertions
  | group parts => assertionsAll parts

def assertionsAll : List Grouping → List Assertion
  | [] => []
  | part :: rest => part.assertions ++ assertionsAll rest

end

mutual

/-- The summary that is built from the parts up. -/
def total (origin : Origin) : Grouping → Outcome Value
  | single a => Value.summaryOfAssertion a
  | pair x y => do (← x.total origin).add origin (← y.total origin)
  | group parts => do Value.summarizeAll origin (← totals origin parts)

def totals (origin : Origin) : List Grouping → Outcome (List Value)
  | [] => .ok []
  | part :: rest => do return (← part.total origin) :: (← totals origin rest)

end

/-- A group without parts has the empty summary. -/
example (origin : Origin) : (group []).total origin = .ok (.ofSummary .empty) := rfl

theorem assertionsAll_eq (parts : List Grouping) :
    assertionsAll parts = (parts.map assertions).flatten := by
  induction parts with
  | nil => rfl
  | cons part rest ih => rw [assertionsAll, ih, List.map_cons, List.flatten_cons]

mutual

/-- By induction on the grouping: what has been built so far is the summary of its assertions. -/
theorem total_eq (origin : Origin) : ∀ g : Grouping,
    g.total origin = .ok (.ofSummary (.ofList g.assertions))
  | single a => by
    rw [total, assertions, Value.summaryOfAssertion_eq, Summary.ofList_cons]
    exact congrArg _ (congrArg _ (Summary.combine_empty _).symm)
  | pair x y => by
    rw [total, assertions, total_eq origin x, total_eq origin y, Summary.ofList_append]
    exact Value.add_summaries origin _ _
  | group parts => by
    rw [total, assertions, totals_eq origin parts, assertionsAll_eq, Summary.ofList_flatten]
    exact Value.summarizeAll_summaries origin _

theorem totals_eq (origin : Origin) : ∀ parts : List Grouping,
    totals origin parts = .ok (((parts.map assertions).map .ofList).map .ofSummary)
  | [] => rfl
  | part :: rest => by
    rw [totals, total_eq origin part, totals_eq origin rest]
    rfl

end

end Grouping

namespace Summary

/-- What a summary says of some assertions. -/
structure Tells (assertions : List Assertion) (s : Summary) : Prop where
  successes : s.successes = assertions.countP (·.verdict == .success)
  failures : s.failures = assertions.countP (·.verdict == .failure)
  failed : s.failed = assertions.filter (·.verdict == .failure)
  counted : s.failures = s.failed.length
  accepted : Value.summaryOf (.int s.successes) (.int s.failures) (s.failed.map .assertion) =
    .ok (.ofSummary s)
  /-- Every failure has its lines, the totals follow. -/
  lines : ∀ color, (Value.ofSummary s).summaryLines color = .ok
    (s.failed.map (Assertion.render color) ++
      [.plain ("Assertions: " ++ toString assertions.length),
        .plain ("Failures: " ++ toString s.failures)])

theorem ofList_tells (assertions : List Assertion) : Tells assertions (ofList assertions) := by
  have opposite (a : Assertion) : (!a.isSuccess) = (a.verdict == .failure) := by
    rw [Assertion.isSuccess]
    cases a.verdict <;> rfl
  have held := ofList_eq assertions
  simp only [opposite] at held
  have failures : (ofList assertions).failures =
      assertions.countP (·.verdict == .failure) := congrArg Summary.failures held
  have failed : (ofList assertions).failed =
      assertions.filter (·.verdict == .failure) := congrArg Summary.failed held
  exact {
    successes := congrArg Summary.successes held
    failures
    failed
    counted := by rw [failures, failed, List.countP_eq_length_filter]
    accepted := Value.summaryOf_counts _ _ _
    lines color := by
      rw [Value.summaryLines_ofSummary, render, total_ofList] }

end Summary

/-- Summaries may be computed in any grouping: the summary that is built from the parts up is that
of the assertions in a row. The summary of a list is always accepted, counts the list exactly and
keeps what failed in its order; its lines show these failures and both totals. -/
theorem summarized_in_any_grouping :
    (∀ (origin : Origin) (g : Grouping),
      g.total origin = Value.summarize (g.assertions.map .assertion)) ∧
    ∀ assertions : List Assertion, ∃ s : Summary,
      Value.summarize (assertions.map .assertion) = .ok (.ofSummary s) ∧
        s.Tells assertions := by
  refine ⟨fun origin g => ?_, fun assertions => ?_⟩
  · rw [Grouping.total_eq, Value.summarize_assertions]
  · exact ⟨.ofList assertions, Value.summarize_assertions assertions,
      Summary.ofList_tells assertions⟩

end Rehearsal
