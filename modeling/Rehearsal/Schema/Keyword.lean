import Rehearsal.Schema.Equality
import Rehearsal.Schema.Pattern
import Rehearsal.Schema.Report
import Rehearsal.Value.Arithmetic
import Rehearsal.Value.Outline
import Rehearsal.Value.Parts

/-!
# Keywords without other schemas

Each keyword looks at the value alone. It says nothing about values of kinds that it is not made
for; an argument that it cannot use is an error. Lists are arrays and dictionaries are objects;
tuples and byte strings are neither.
-/

namespace Rehearsal.Schema

/-- A violation at the place that is being checked. -/
def here (message : String) : List Violation := [⟨[], message⟩]

/-- A violation, with words that come from values, unless the rule holds. -/
def require (holds : Bool) (message : Outcome String) : Outcome (List Violation) :=
  if holds then .ok [] else message.map here

def field? (name : String) (keywords : List (Value × Value)) : Option Value :=
  Value.lookup name keywords

/-- The literals of values with commas between them. -/
def literals (values : List Value) : Outcome String := do
  return ", ".intercalate (← values.mapM Value.shown)

/-- The literal of a value in front of some words. -/
def said (v : Value) (words : String) : Outcome String := do return (← v.shown) ++ words

/-- The literals of two values around some words. -/
def related (v : Value) (words : String) (w : Value) : Outcome String := do
  return (← v.shown) ++ words ++ (← w.shown)

/-- A number that is no truth value. -/
def isNumber : Value → Bool
  | .int _ | .float _ | .nan _ => true
  | _ => false

/-- Whether a value is of a kind that schemas name; none for the name of no kind. -/
def hasType? (v : Value) (name : String) : Option Bool :=
  match name, v with
  | "null", .none => some true
  | "boolean", .bool _ => some true
  | "integer", .int _ => some true
  | "integer", .float x =>
    match Number.read x with
    | .finite d => some d.isIntegral
    | _ => some false
  | "number", v => some (isNumber v)
  | "string", .text _ => some true
  | "array", .list _ => some true
  | "object", .dict _ => some true
  | "null", _ | "boolean", _ | "integer", _ | "string", _ | "array", _ | "object", _ => some false
  | _, _ => none

/-- Whether a value is of a named kind; a name of no kind is an error that shows the schema. -/
def hasType (schema v name : Value) : Outcome Bool :=
  match name.text?.bind (hasType? v), name.unhashable? with
  | some b, _ => .ok b
  | none, some kind => .error (.mismatch (.hashing kind))
  | none, none => do
    .error (.unknownType (← name.shown) (← schema.shownLines) (← v.shownLines))

/-- Whether some item passes a test, up to the first that does. -/
def anyOutcome (test : Value → Outcome Bool) : List Value → Outcome Bool
  | [] => .ok false
  | x :: xs => do if ← test x then return true else anyOutcome test xs

/-- A text as a list of one, else what iteration gives. -/
def names (argument : Value) : Outcome (List Value) :=
  match argument with
  | .text _ => .ok [argument]
  | v => v.elements

/-- The entries of an argument that has to be a dictionary. -/
def entriesOf (argument : Value) : Outcome (List (Value × Value)) :=
  match argument with
  | .dict es => .ok es
  | v => .error (.member v.kindName "items")

/-- Whether a number is a multiple of a double. It is divided in doubles, unless the quotient has no
finite one. -/
def multipleOfFloat (n unit : Number) : Outcome Bool :=
  match n.toFloat?, unit.toFloat? with
  | some x, some y =>
    if y == 0 then .error (.division .floatQuotient)
    else match Number.read (x / y) with
      | .finite d => .ok d.isIntegral
      | .nan => .error (.rejected .notANumber)
      | .infinite _ =>
        match n.position?, unit.position? with
        | some a, some b =>
          if a.rank = 0 then .ok (a.num * b.den % (b.num * a.den) == 0)
          else .error (.overflow .ratio)
        | _, _ => .error (.rejected .notARatio)
  | _, _ => .error (.overflow .float)

def isMultiple (v unit : Value) : Outcome Bool :=
  match unit, v.number?, unit.number? with
  | .float _, some n, some u | .nan _, some n, some u => multipleOfFloat n u
  | _, _, _ => do return !(← v.remainder [] unit).truth

/-- A comparison with a bound, which is broken if it holds. -/
def boundRule (v bound : Value) (broken : Relation) (words : String) :
    Outcome (List Violation) := do
  if isNumber v then require (!(← v.compare broken bound)) (related v words bound) else return []

/-- The bound of a size, with the words for one that is broken and those for a special one. -/
def sizeRule (v : Value) (size : Nat) (bound : Value) (broken : Relation) (special : Int)
    (specially generally : String) : Outcome (List Violation) := do
  let isBroken ← (Value.int size).compare broken bound
  require (!isBroken) (said v (if bound.same (.int special) then specially else generally))

def leastSize (v : Value) (size : Nat) (bound : Value) (words : String) :
    Outcome (List Violation) :=
  sizeRule v size bound .less 1 " should be non-empty" words

def mostSize (v : Value) (size : Nat) (bound : Value) (words : String) :
    Outcome (List Violation) :=
  sizeRule v size bound .greater 0 " is expected to be empty" words

/-- A pattern has to be a text. -/
def patternRule (w : Wording) (v pattern : Value) : Outcome (List Violation) :=
  match pattern with
  | .text p =>
    require ((Pattern.parse p.contents).isMatch w.contents) (related v " does not match " pattern)
  | .bytes _ => .error (.mismatch .bytePattern)
  | p =>
    match p.unhashable? with
    | some kind => .error (.mismatch (.hashing kind))
    | none => .error (.mismatch .pattern)

/-- Violations for the names that an object does not have. -/
def missingNames (es : List (Value × Value)) (words : Value → Outcome String) :
    List Value → Findings
  | names => Findings.joined (fun name => .ofOutcome do
      require (← (Value.dict es).holds name) (words name)) names

/-- Keywords that look at the value alone. -/
def simpleKeyword (schema : Value) (name : String) (argument v : Value) : Findings :=
  match name, v with
  | "type", v => .ofOutcome do
    let names ← names argument
    require (← anyOutcome (hasType schema v) names) do
      return (← v.shown) ++ " is not of type " ++ (← literals names)
  | "enum", v => .ofOutcome do
    let options ← argument.elements
    require (options.any fun o => equal o v) (related v " is not one of " argument)
  | "const", v => .ofOutcome (require (equal v argument) (said argument " was expected"))
  | "minimum", v => .ofOutcome (boundRule v argument .less " is less than the minimum of ")
  | "maximum", v => .ofOutcome (boundRule v argument .greater " is greater than the maximum of ")
  | "exclusiveMinimum", v =>
    .ofOutcome (boundRule v argument .lessEqual " is less than or equal to the minimum of ")
  | "exclusiveMaximum", v =>
    .ofOutcome (boundRule v argument .greaterEqual " is greater than or equal to the maximum of ")
  | "multipleOf", v => .ofOutcome do
    if isNumber v then
      require (← isMultiple v argument) (related v " is not a multiple of " argument)
    else return []
  | "minLength", .text w => .ofOutcome (leastSize v w.length argument " is too short")
  | "maxLength", .text w => .ofOutcome (mostSize v w.length argument " is too long")
  | "pattern", .text w => .ofOutcome (patternRule w v argument)
  | "minItems", .list xs => .ofOutcome (leastSize v xs.length argument " is too short")
  | "maxItems", .list xs => .ofOutcome (mostSize v xs.length argument " is too long")
  | "uniqueItems", .list xs =>
    .ofOutcome (require (!argument.truth || areUnique xs) (said v " has non-unique elements"))
  | "minProperties", .dict es =>
    .ofOutcome (leastSize v es.length argument " does not have enough properties")
  | "maxProperties", .dict es =>
    .ofOutcome (mostSize v es.length argument " has too many properties")
  | "required", .dict es =>
    .andThen argument.elements
      (missingNames es fun name => said name " is a required property")
  | "dependentRequired", .dict es =>
    .andThen (entriesOf argument) <| Findings.joined fun (name, needed) =>
      .andThen ((Value.dict es).holds name) fun present =>
        if present then
          .andThen needed.elements
            (missingNames es fun other => related other " is a dependency of " name)
        else .none
  | _, _ => .none

end Rehearsal.Schema
