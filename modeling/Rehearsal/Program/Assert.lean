import Rehearsal.Containment
import Rehearsal.Program.Basic
import Rehearsal.Schema.Check
import Rehearsal.Value.Summary

/-!
# Programs that record assertions

Each of them decides its claim when it is built, then asks for the context in force and records
the verdict there.
-/

namespace Rehearsal.Program

/-- Records a verdict in the context in force. -/
def assertThat (holds : Bool) (statement comment : Wording) : Program :=
  bind (ask .context) fun context =>
    ask (.record (.ofBool holds statement (context.wording?.getD "") comment))

/-- The statement and the comment have to be texts. -/
def assertIf (holds : Bool) (statement comment : Value) : Outcome Program :=
  match statement.wording?, comment.wording? with
  | some s, some c => .ok (assertThat holds s c)
  | _, _ => .error (.mismatch .statement)

def assertStated (holds : Bool) (statement : Outcome Wording) (comment : Value) :
    Outcome Program := do
  assertIf holds (.text (← statement)) comment

def assertSuccess (comment : Value) : Outcome Program :=
  assertIf true "Success!" comment

def assertFailure (comment : Value) : Outcome Program :=
  assertIf false "Failure :(" comment

/-- A statement about one value. -/
def about (v : Value) (words : String) : Outcome Wording := do return .plain ((← v.shown) ++ words)

/-- A statement about two values. -/
def between (x : Value) (words : String) (y : Value) : Outcome Wording := do
  return .plain ((← x.shown) ++ words ++ (← y.shown))

/-- A statement about a value and something that is shown by a name. -/
def named (x : Value) (words : String) (name : Value) : Outcome Wording := do
  return .plain ((← x.shown) ++ words) ++ (← name.displayed)

def assertTrue (v comment : Value) : Outcome Program :=
  assertStated v.truth (about v " is True") comment

def assertFalse (v comment : Value) : Outcome Program :=
  assertStated (!v.truth) (about v " is False") comment

def assertEqual (x y comment : Value) : Outcome Program :=
  assertStated (x.same y) (between x " is equal to " y) comment

def assertNotEqual (x y comment : Value) : Outcome Program :=
  assertStated (!x.same y) (between x " is not equal to " y) comment

def assertIsSubstring (x y comment : Value) : Outcome Program := do
  assertStated (← x.occursIn y) (between x " is a substring of " y) comment

def assertIsNotSubstring (x y comment : Value) : Outcome Program := do
  assertStated (!(← x.occursIn y)) (between x " is not a substring of " y) comment

/-- The second value is shown by a name, which helps where it is large. -/
def assertIsNamedSubstring (x y name comment : Value) : Outcome Program := do
  assertStated (← x.occursIn y) (named x " is a substring of " name) comment

def assertIsNotNamedSubstring (x y name comment : Value) : Outcome Program := do
  assertStated (!(← x.occursIn y)) (named x " is not a substring of " name) comment

/-- The statement lists what the schema finds. -/
def assertMatchesSchema (instance_ schema comment name : Value) : Outcome Program := do
  let errors ← Schema.errors schema instance_
  let found := if errors.isEmpty then "" else " (" ++ "; ".intercalate errors ++ ")"
  let statement := do return (← name.displayed) ++ .plain (" matches schema" ++ found)
  assertStated errors.isEmpty statement comment

/-- Writes the lines of a summary to the standard output. -/
def printSummary (color : Bool) (v : Value) : Program :=
  let lines : Body :=
    match v.summaryLines color with
    | .error e => .raise e
    | .ok lines =>
      .ofList .none (lines.map fun line => put .stdout (.text (line ++ .plain "\n")))
  match v.summaryTotal with
  | .error e => body (.raise e)
  | .ok _ => body (.yield standardOutput fun _ => lines)

end Rehearsal.Program
