import Rehearsal.Assertion

/-!
# Summaries

How many assertions held, how many failed, and the failed ones. Summaries are combined by
adding the counts and appending the failures, so they may be computed in any grouping.
-/

namespace Rehearsal

structure Summary where
  successes : Nat := 0
  failures : Nat := 0
  failed : List Assertion := []
deriving DecidableEq, Repr

namespace Summary

def empty : Summary := {}

def combine (x y : Summary) : Summary :=
  ⟨x.successes + y.successes, x.failures + y.failures, x.failed ++ y.failed⟩

instance : Append Summary := ⟨combine⟩

def ofAssertion (a : Assertion) : Summary :=
  if a.isSuccess then ⟨1, 0, []⟩ else ⟨0, 1, [a]⟩

def combineAll (xs : List Summary) : Summary := xs.foldl combine empty

def ofList (assertions : List Assertion) : Summary := combineAll (assertions.map ofAssertion)

def total (s : Summary) : Nat := s.successes + s.failures

/-- Every failure, then the two totals. -/
def render (color : Bool) (s : Summary) : List Wording :=
  s.failed.map (Assertion.render color) ++
    [.plain ("Assertions: " ++ toString s.total), .plain ("Failures: " ++ toString s.failures)]

end Summary

end Rehearsal
