import Rehearsal.FaultKind
import Rehearsal.Handle
import Rehearsal.Number.Basic
import Rehearsal.Settings.Basic
import Rehearsal.Summary

/-!
# Values

What programs compute with. Values are dynamic: assertions, schemas and canonical texts apply to
any of them. A fault, a response and a simulated environment are values whose own parts may be any
values, so all four are defined together.
-/

namespace Rehearsal

/-- Where a value came to be that equals nothing but itself: the places of the evaluation around
it, innermost first. -/
abbrev Origin := List Nat

mutual

inductive Value where
  | none
  | bool (b : Bool)
  | int (n : Int)
  /-- A double that is a number; `nan` stands for the others. -/
  | float (x : Float)
  | nan (origin : Origin)
  | text (w : Wording)
  | bytes (bytes : Text.Bytes)
  | list (items : List Value)
  | tuple (items : List Value)
  | set (items : List Value)
  | frozenset (items : List Value)
  | dict (entries : List (Value × Value))
  | instant (t : Time.Instant)
  | duration (d : Time.Duration)
  | handle (h : Handle)
  | fault (f : Fault)
  | success (value : Value)
  | failure (error : Value)
  | response (r : Response)
  | assertion (a : Assertion)
  /-- Counts are numbers that are not negative. -/
  | summary (successes failures : Value) (failed : List Value)
  | generator (seed : Value)
  | session (id : String)
  | settings (s : Settings)
  | exception (text : String) (origin : Origin)
  | server (origin : Origin)
  | environment (e : Environment)
  | client (index : Nat)

/-- What failed, in words and in its place. -/
structure Fault where
  kind : FaultKind
  message : Value
  path : Value

structure Response where
  status : Value
  body : Text.Bytes
  headers : List (String × String)
  url : Value

/-- A simulated environment. Logs have their newest entry first, queues their next entry first. -/
structure Environment where
  session : String
  /-- What is kept for the server. -/
  clientLocal : Value
  /-- What was written to handles other than the standard output, with the name of the handle. -/
  printLog : List (String × Value)
  consoleOut : List Value
  consoleQueue : List Value
  /-- The line that is read when the queue is empty. -/
  consoleDefault : Value
  clock : Time.Instant
  tick : Time.Duration
  captured : Option Fault
  fileExists : Bool
  fileFull : Bool
  fileOut : List Text.Bytes
  fileIn : List Value
  generator : Generator
  echo : Bool
  consoleChar : String
  assertions : List Assertion
  context : List Value

end

instance : Inhabited Value := ⟨.none⟩

instance : Coe String Value := ⟨fun s => .text (.plain s)⟩

/-- An environment in which nothing has happened. -/
def Environment.fresh : Environment where
  session := "mock-session"
  clientLocal := .none
  printLog := []
  consoleOut := []
  consoleQueue := []
  consoleDefault := .text (.plain "")
  clock := Time.Instant.julianEpoch
  tick := ⟨Time.secondMicros⟩
  captured := none
  fileExists := true
  fileFull := false
  fileOut := []
  fileIn := []
  generator := {}
  echo := true
  consoleChar := "y"
  assertions := []
  context := []

namespace Value

def ofString (s : String) : Value := text (.plain s)

/-- The verdict itself reads as a text. -/
def verdict (v : Verdict) : Value := text (.verdict v)

def ofFloat (origin : Origin) (x : Float) : Value := if x.isNaN then nan origin else float x

/-- A number that is none as a value of its own. -/
def renewed (origin : Origin) : Value → Value
  | nan _ => nan origin
  | v => v

def ofNumber (origin : Origin) : Number → Value
  | .bool b => bool b
  | .int n => int n
  | .float x => ofFloat origin x

def ofOption : Option Value → Value
  | some v => v
  | Option.none => none

def ofSummary (s : Summary) : Value :=
  summary (int s.successes) (int s.failures) (s.failed.map assertion)

def ofGenerator (g : Generator) : Value := generator (int g.seed)

def number? : Value → Option Number
  | bool b => some (.bool b)
  | int n => some (.int n)
  | float x => some (.float x)
  | nan _ => some (.float Number.notANumber)
  | _ => Option.none

/-- Truth values count as zero and one. -/
def integer? : Value → Option Int
  | bool b => some (Number.ofBool b)
  | int n => some n
  | _ => Option.none

def wording? : Value → Option Wording
  | text w => some w
  | _ => Option.none

/-- The text of a wording all of whose code points are characters. -/
def text? (v : Value) : Option String := v.wording?.bind Wording.text?

/-- Truth: zero, the empty and the absent are false, everything else is true. -/
def truth : Value → Bool
  | none => false
  | bool b => b
  | int n => n != 0
  | float x => x != 0
  | text w => !w.isEmpty
  | bytes bs => !bs.isEmpty
  | list xs | tuple xs | set xs | frozenset xs => !xs.isEmpty
  | dict es => !es.isEmpty
  | duration d => d.micros != 0
  | _ => true

def typeName : Value → String
  | none => "NoneType"
  | bool _ => "bool"
  | int _ => "int"
  | float _ | nan _ => "float"
  | text (.verdict _) => "AssertionResult"
  | text _ => "str"
  | bytes _ => "bytes"
  | list _ => "list"
  | tuple _ => "tuple"
  | set _ => "set"
  | frozenset _ => "frozenset"
  | dict _ => "dict"
  | instant _ => "datetime"
  | duration _ => "timedelta"
  | handle _ => "Handle"
  | fault f => f.kind.name
  | success _ => "Success"
  | failure _ => "Failure"
  | response _ => "HttpResponse"
  | assertion _ => "Assertion"
  | summary _ _ _ => "AssertionSummary"
  | generator _ => "MockGen"
  | session _ => "MockSession"
  | settings _ => "MockConfig"
  | exception _ _ => "ValueError"
  | server _ => "MockServer"
  | environment _ => "MockState"
  | client _ => "Client"

/-- The kind as refusals of an operation name it: kinds of times with their family. -/
def kindName (v : Value) : String :=
  match v with
  | instant _ | duration _ => "datetime." ++ v.typeName
  | v => v.typeName

/-- The family in which a kind is defined, where it has one. -/
def familyName : Value → String
  | instant _ | duration _ => "datetime."
  | handle _ | response _ => "effectsim.effects.types."
  | fault _ => "effectsim.faults."
  | success _ | failure _ => "effectsim.result."
  | assertion _ => "effectsim.assertions.assertion."
  | summary _ _ _ => "effectsim.assertions.summary."
  | generator _ => "effectsim.effects.prng."
  | session _ | server _ | environment _ => "effectsim.mock.state."
  | settings _ => "effectsim.config."
  | client _ => "httpx."
  | _ => ""

mutual

/-- A plain value as a value. All of its numbers that are none are one and the same. -/
def ofJson : Json → Value
  | .null => none
  | .bool b => bool b
  | .int n => int n
  | .float x => ofFloat [] x
  | .text s => text s
  | .array items => list (ofJsonAll items)
  | .object entries => dict (ofJsonEntries entries)

def ofJsonAll : List Json → List Value
  | [] => []
  | item :: rest => ofJson item :: ofJsonAll rest

def ofJsonEntries : List (Wording × Json) → List (Value × Value)
  | [] => []
  | (key, value) :: rest => (text key, ofJson value) :: ofJsonEntries rest

end

end Value

end Rehearsal
