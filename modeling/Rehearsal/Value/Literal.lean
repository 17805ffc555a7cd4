import Rehearsal.Number.Digits
import Rehearsal.Value.Basic

/-!
# Literals of values

The literal of a value shows its kind and its parts. The display form differs from it for texts,
times, faults and exceptions, which show themselves. Integers past the digit limit have no text, so
a value that holds one is not shown: `holdsLong` finds them.
-/

namespace Rehearsal

namespace Value

def commas (parts : List String) : String := ", ".intercalate parts

/-- A tuple of one part ends with a comma. -/
def literalTuple : List String → String
  | [part] => "(" ++ part ++ ",)"
  | parts => "(" ++ commas parts ++ ")"

/-- A record with its fields in order. -/
def literalRecord (name : String) (fields : List (String × String)) : String :=
  name ++ "(" ++ commas (fields.map fun (field, part) => field ++ "=" ++ part) ++ ")"

def literalBool (b : Bool) : String := if b then "True" else "False"

def braces (parts : List String) : String := "\x7b" ++ commas parts ++ "\x7d"

end Value

def Assertion.literal (a : Assertion) : String :=
  Value.literalRecord "Assertion"
    [("statement", a.statement.literal), ("comment", a.comment.literal),
     ("context", a.context.literal), ("result", a.verdict.literal)]

def Generator.literal (g : Generator) : String :=
  Value.literalRecord "MockGen" [("seed", toString g.seed)]

/-- The literal of a session. -/
def literalSession (id : String) : String :=
  Value.literalRecord "MockSession" [("session_id", Text.literal id)]

mutual

def Value.literal : Value → String
  | .none => "None"
  | .bool b => Value.literalBool b
  | .int n => toString n
  | .float x => Number.text x
  | .nan _ => "nan"
  | .text w => w.literal
  | .bytes bs => Text.literalBytes bs
  | .list xs => "[" ++ Value.commas (Value.literals xs) ++ "]"
  | .tuple xs => Value.literalTuple (Value.literals xs)
  | .set [] => "set()"
  | .set xs => Value.braces (Value.literals xs)
  | .frozenset [] => "frozenset()"
  | .frozenset xs => "frozenset(" ++ Value.braces (Value.literals xs) ++ ")"
  | .dict es => Value.braces (Value.literalEntries es)
  | .instant t => t.literal
  | .duration d => d.literal
  | .handle h => h.literal
  | .fault f => f.literal
  | .success v => Value.literalRecord "Success" [("value", v.literal)]
  | .failure v => Value.literalRecord "Failure" [("error", v.literal)]
  | .response r => r.literal
  | .assertion a => a.literal
  | .summary successes failures failed =>
    Value.literalRecord "AssertionSummary"
      [("num_successes", successes.literal), ("num_failures", failures.literal),
       ("failures", Value.literalTuple (Value.literals failed))]
  | .generator seed => Value.literalRecord "MockGen" [("seed", seed.literal)]
  | .session id => literalSession id
  | .settings s => s.literal
  | .exception s _ => "ValueError(" ++ Text.literal s ++ ")"
  | .server _ => "<MockServer>"
  | .environment e => e.literal
  | .client index => "<Client " ++ toString index ++ ">"

def Value.literals : List Value → List String
  | [] => []
  | x :: xs => x.literal :: Value.literals xs

def Value.literalEntries : List (Value × Value) → List String
  | [] => []
  | (k, v) :: es => (k.literal ++ ": " ++ v.literal) :: Value.literalEntries es

/-- Entries of a log, each with the name of its handle. -/
def Value.literalLog : List (String × Value) → List String
  | [] => []
  | (name, v) :: es =>
    Value.literalTuple [Text.literal name, v.literal] :: Value.literalLog es

def Fault.literal : Fault → String
  | ⟨kind, message, path⟩ =>
    Value.literalRecord kind.name [("message", message.literal), ("path", path.literal)]

def Fault.literalOption : Option Fault → String
  | none => "None"
  | some f => f.literal

def Response.literal : Response → String
  | ⟨status, body, headers, url⟩ =>
    let pair (h : String × String) := Value.literalTuple [Text.literal h.1, Text.literal h.2]
    Value.literalRecord "HttpResponse"
      [("status_code", status.literal), ("body", Text.literalBytes body),
       ("headers", Value.literalTuple (headers.map pair)), ("url", url.literal)]

def Environment.literal : Environment → String
  | ⟨session, clientLocal, printLog, consoleOut, consoleQueue, consoleDefault, clock, tick,
      captured, fileExists, fileFull, fileOut, fileIn, generator, echo, consoleChar, assertions,
      context⟩ =>
    Value.literalRecord "MockState"
      [("responder", "<MockServer>"), ("session", literalSession session),
       ("client_local", clientLocal.literal),
       ("print_log", Value.literalTuple (Value.literalLog printLog)),
       ("console_out", Value.literalTuple (Value.literals consoleOut)),
       ("console_in",
        Value.literalTuple
          [Value.literalTuple (Value.literals consoleQueue), consoleDefault.literal]),
       ("clock", clock.literal), ("tick", tick.literal),
       ("captured_fault", Fault.literalOption captured),
       ("file_exists", Value.literalBool fileExists),
       ("file_full", Value.literalBool fileFull),
       ("file_out", Value.literalTuple (fileOut.map Text.literalBytes)),
       ("file_in", Value.literalTuple (Value.literals fileIn)),
       ("rng", generator.literal), ("echo", Value.literalBool echo),
       ("console_char", Text.literal consoleChar),
       ("assertions", Value.literalTuple (assertions.map Assertion.literal)),
       ("context", Value.literalTuple (Value.literals context))]

end

mutual

/-- The form in which a value is shown inside other text. -/
def Value.display : Value → Wording
  | .text w => w.display
  | .instant t => t.display
  | .duration d => d.display
  | .fault f => f.display
  | .exception s _ => s
  | .settings s => s.display
  | v => v.literal

/-- The code, then the message and the path as far as they are true. -/
def Fault.display : Fault → Wording
  | ⟨kind, message, path⟩ =>
    let head : Wording :=
      if message.truth then .plain (kind.code ++ ": ") ++ message.display else kind.code
    if path.truth then head ++ .plain " (" ++ path.display ++ .plain ")" else head

end

mutual

/-- Whether a value holds an integer with too many digits to be written. -/
def Value.holdsLong : Value → Bool
  | .int n => Number.exceedsDigitLimit n
  | .list xs | .tuple xs | .set xs | .frozenset xs => Value.anyHoldsLong xs
  | .dict es => Value.anyEntryHoldsLong es
  | .fault f => f.holdsLong
  | .success v | .failure v => v.holdsLong
  | .response r => r.holdsLong
  | .summary successes failures failed =>
    successes.holdsLong || failures.holdsLong || Value.anyHoldsLong failed
  | .generator seed => seed.holdsLong
  | .settings s => Number.exceedsDigitLimit s.seed
  | .environment e => e.holdsLong
  | _ => false

def Value.anyHoldsLong : List Value → Bool
  | [] => false
  | x :: xs => x.holdsLong || Value.anyHoldsLong xs

def Value.anyEntryHoldsLong : List (Value × Value) → Bool
  | [] => false
  | (k, v) :: es => k.holdsLong || v.holdsLong || Value.anyEntryHoldsLong es

def Value.anyNamedHoldsLong : List (String × Value) → Bool
  | [] => false
  | (_, v) :: es => v.holdsLong || Value.anyNamedHoldsLong es

def Fault.holdsLong : Fault → Bool
  | ⟨_, message, path⟩ => message.holdsLong || path.holdsLong

def Fault.optionHoldsLong : Option Fault → Bool
  | none => false
  | some f => f.holdsLong

def Response.holdsLong : Response → Bool
  | ⟨status, _, _, url⟩ => status.holdsLong || url.holdsLong

def Environment.holdsLong : Environment → Bool
  | ⟨_, clientLocal, printLog, consoleOut, consoleQueue, consoleDefault, _, _, captured, _, _, _,
      fileIn, generator, _, _, _, context⟩ =>
    clientLocal.holdsLong || Value.anyNamedHoldsLong printLog || Value.anyHoldsLong consoleOut ||
      Value.anyHoldsLong consoleQueue || consoleDefault.holdsLong ||
      Fault.optionHoldsLong captured || Value.anyHoldsLong fileIn ||
      Number.exceedsDigitLimit generator.seed || Value.anyHoldsLong context

end

end Rehearsal
