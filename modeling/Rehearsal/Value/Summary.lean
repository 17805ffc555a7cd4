import Rehearsal.Value.Arithmetic

/-!
# Summaries as values

A summary value has counts that are numbers of any kind and, in the place of its failures, any
values. Those that a run gives are the summaries of `Rehearsal.Summary`.
-/

namespace Rehearsal

namespace Value

def asAssertion (v : Value) : Outcome Assertion :=
  match v with
  | assertion a => .ok a
  | v => .error (.member v.kindName "result")

def assertion? : Value → Option Assertion
  | assertion a => some a
  | _ => Option.none

def count? : Value → Option Nat
  | int (.ofNat n) => some n
  | _ => Option.none

/-- The summary with these parts, if counts and failures are what they stand for. -/
def toSummary? : Value → Option Summary
  | summary successes failures failed => do
    return ⟨← successes.count?, ← failures.count?, ← failed.mapM assertion?⟩
  | _ => Option.none

/-- The number of all assertions of a summary. -/
def summaryTotal (v : Value) : Outcome Value :=
  match v with
  | summary successes failures _ =>
    (addNumbers [] successes failures).getD
      (.error (.mismatch (.operands "+" successes.kindName failures.kindName)))
  | v => .error (.member v.kindName "num_assertions")

/-- The lines of a summary. -/
def summaryLines (color : Bool) (v : Value) : Outcome (List Wording) :=
  match v.toSummary?, v with
  | some s, _ => .ok (s.render color)
  | Option.none, summary _ failures failed => do
    let shown ← failed.mapM fun v => do return (← v.asAssertion).render color
    let total ← (← v.summaryTotal).displayed
    return shown ++ [.plain "Assertions: " ++ total, .plain "Failures: " ++ (← failures.displayed)]
  | Option.none, v => .error (.member v.kindName "failures")

/-- The summary of a single assertion. -/
def summaryOfAssertion (a : Assertion) : Outcome Value :=
  if a.isSuccess then summaryOf (int 1) (int 0) [] else summaryOf (int 0) (int 1) [assertion a]

/-- Summaries are added up from the left. -/
def summarizeAll (origin : Origin) (summaries : List Value) : Outcome Value :=
  summaries.foldlM (add origin) (ofSummary .empty)

/-- The summary of some values, which have to be assertions. -/
def summarize (items : List Value) : Outcome Value := do
  let assertions ← items.mapM asAssertion
  summarizeAll [] (← assertions.mapM summaryOfAssertion)

end Value

end Rehearsal
