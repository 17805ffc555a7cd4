import Rehearsal.Summary

/-!
# Summaries of lists

The summary of a list of assertions counts those that held and keeps those that failed. Summaries
form a monoid, so the summary of two lists one after the other is the combination of theirs, and a
list may be cut anywhere before it is summarized.
-/

namespace Rehearsal

namespace Summary

theorem combine_assoc (x y z : Summary) :
    (x.combine y).combine z = x.combine (y.combine z) := by
  simp only [combine, Nat.add_assoc, List.append_assoc]

@[simp]
theorem combine_empty (x : Summary) : x.combine empty = x := by
  simp [combine, empty]

@[simp]
theorem empty_combine (x : Summary) : empty.combine x = x := by
  simp [combine, empty]

/-- Summaries that are combined onto another one may be combined among themselves before. -/
theorem foldl_combine (x : Summary) (ys : List Summary) :
    ys.foldl combine x = x.combine (combineAll ys) := by
  induction ys generalizing x with
  | nil => exact (combine_empty x).symm
  | cons y rest ih =>
    rw [combineAll, List.foldl_cons, List.foldl_cons, ih, ih, empty_combine, combine_assoc]

theorem combineAll_cons (x : Summary) (ys : List Summary) :
    combineAll (x :: ys) = x.combine (combineAll ys) := by
  rw [combineAll, List.foldl_cons, empty_combine, foldl_combine]

theorem ofList_cons (a : Assertion) (rest : List Assertion) :
    ofList (a :: rest) = (ofAssertion a).combine (ofList rest) :=
  combineAll_cons _ _

/-- A list may be cut anywhere before it is summarized. -/
theorem ofList_append (xs ys : List Assertion) :
    ofList (xs ++ ys) = (ofList xs).combine (ofList ys) := by
  induction xs with
  | nil => exact (empty_combine _).symm
  | cons a rest ih => rw [List.cons_append, ofList_cons, ih, ofList_cons, combine_assoc]

/-- A list in pieces is summarized piece by piece. -/
theorem ofList_flatten (pieces : List (List Assertion)) :
    ofList pieces.flatten = combineAll (pieces.map ofList) := by
  induction pieces with
  | nil => rfl
  | cons piece rest ih =>
    rw [List.flatten_cons, ofList_append, ih, List.map_cons, combineAll_cons]

/-- What a summary of a list holds: both counts, and the failed assertions in their order. -/
theorem ofList_eq (assertions : List Assertion) :
    ofList assertions =
      ⟨assertions.countP (·.isSuccess), assertions.countP (!·.isSuccess),
        assertions.filter (!·.isSuccess)⟩ := by
  induction assertions with
  | nil => rfl
  | cons a rest ih =>
    rw [ofList_cons, ih, ofAssertion]
    cases h : a.isSuccess with
    | true => simp [combine, h, Nat.add_comm]
    | false => simp [combine, h, Nat.add_comm]

theorem total_ofList (assertions : List Assertion) :
    (ofList assertions).total = assertions.length := by
  have counted := List.length_eq_countP_add_countP (·.isSuccess) (l := assertions)
  rw [ofList_eq, total]
  simpa using counted.symm

theorem failed_ofList (assertions : List Assertion) :
    (ofList assertions).failed = assertions.filter (!·.isSuccess) := by
  rw [ofList_eq]

end Summary

end Rehearsal
