import Rehearsal.Error

/-!
# Reports of schema violations

One line for each violation: its place and what is wrong there. Lines are in the order of the
places, compared step by step as texts; violations of one place keep their order. A check may end
in an error, before which it has found some violations.
-/

namespace Rehearsal.Schema

/-- A step further inside a document. -/
inductive Step where
  | entry (name : String)
  | item (index : Nat)
deriving DecidableEq, Repr

def Step.text : Step → String
  | entry name => name
  | item index => toString index

structure Violation where
  /-- The steps on the way to the place. -/
  place : List Step
  message : String
deriving DecidableEq, Repr

namespace Violation

def steps (v : Violation) : List String := v.place.map Step.text

/-- The steps to the place; the document itself has a name of its own. -/
def location (v : Violation) : String :=
  let path := "/".intercalate v.steps
  if path.isEmpty then "<root>" else path

def line (v : Violation) : String := v.location ++ ": " ++ v.message

/-- Whether the first place does not come after the second one. -/
def notAfter (v w : Violation) : Bool := decide (¬ w.steps < v.steps)

end Violation

/-- The lines of a report. -/
def report (violations : List Violation) : List String :=
  (violations.mergeSort Violation.notAfter).map Violation.line

/-- What a check found, and the error that ended it, if one did. -/
structure Findings where
  found : List Violation := []
  stop : Option Error := none

namespace Findings

def none : Findings := {}

def ofOutcome : Outcome (List Violation) → Findings
  | .ok found => { found }
  | .error e => { stop := some e }

/-- Goes on with another check, unless an error has ended this one. -/
def append (a b : Findings) : Findings :=
  match a.stop with
  | some _ => a
  | Option.none => ⟨a.found ++ b.found, b.stop⟩

instance : Append Findings := ⟨append⟩

/-- One check after the other. -/
def joined {α : Type} (check : α → Findings) : List α → Findings
  | [] => none
  | x :: xs => check x ++ joined check xs

/-- Goes on with the result of a step, or ends with its error. -/
def andThen {α : Type} (step : Outcome α) (next : α → Findings) : Findings :=
  match step with
  | .ok a => next a
  | .error e => { stop := some e }

/-- All violations lie one step further inside. -/
def within (step : Step) (f : Findings) : Findings :=
  { f with found := f.found.map fun v => { v with place := step :: v.place } }

/-- All violations, if no error ended the check. -/
def all (f : Findings) : Outcome (List Violation) :=
  match f.stop with
  | some e => .error e
  | Option.none => .ok f.found

/-- Whether there is no violation. The first violation decides; without one an error counts. -/
def isValid (f : Findings) : Outcome Bool :=
  if f.found.isEmpty then f.all.map List.isEmpty else .ok false

end Findings

end Rehearsal.Schema
