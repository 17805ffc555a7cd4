import Rehearsal.Sort.Adaptive
import Rehearsal.Text.Outline
import Rehearsal.Value.Literal
import Rehearsal.Value.Order

/-!
# Outlines of values

The outline of a value has its parts where the literal of the value has them. Members of sets come
in their order, and kinds without an order in that of their names.
-/

namespace Rehearsal

open Text (Outline)

namespace Value

/-- Parts without labels, with room for the closing bracket behind the last one. -/
def outlineItems (opening closing : String) (parts : List Outline) : Outline :=
  .group (opening ++ commas (parts.map Outline.whole) ++ closing) opening closing closing.length
    (parts.map fun part => ("", part))

def outlineTuple (parts : List Outline) : Outline :=
  outlineItems "(" (if parts.length = 1 then ",)" else ")") parts

/-- A record with its fields; no room is kept for its closing bracket. -/
def outlineRecord (name : String) (fields : List (String × Outline)) : Outline :=
  .group (literalRecord name (fields.map fun (field, part) => (field, part.whole))) (name ++ "(")
    ")" 0 (fields.map fun (field, part) => (field ++ "=", part))

def outlineText (s : String) : Outline := .text (s.toList.map .char)

def outlineBool (b : Bool) : Outline := .atom (literalBool b)

/-- The order of the members of a set. -/
def precedesMember (x y : Value) : Except Empty Bool :=
  match x.less y with
  | .ok b => .ok b
  | .error _ =>
    let name (v : Value) : String := "<class '" ++ v.familyName ++ v.kindName ++ "'>"
    .ok (decide (name x < name y))

/-- Members with their outlines, in order. -/
def sortMembers (members : List (Value × Outline)) : List Outline :=
  match Sort.sort (fun (a b : Value × Outline) => precedesMember a.1 b.1) members with
  | .ok sorted => sorted.map (·.2)

end Value

def Wording.outline : Wording → Outline
  | .verdict v => .atom v.literal
  | w => .text w.points

def Assertion.outline (a : Assertion) : Outline :=
  Value.outlineRecord "Assertion"
    [("statement", a.statement.outline), ("comment", a.comment.outline),
     ("context", a.context.outline), ("result", .atom a.verdict.literal)]

def Handle.outline (h : Handle) : Outline :=
  Value.outlineRecord "Handle" [("name", Value.outlineText h.name)]

/-- The outline of a session. -/
def outlineSession (id : String) : Outline :=
  Value.outlineRecord "MockSession" [("session_id", Value.outlineText id)]

mutual

def Value.outline : Value → Outline
  | .text w => w.outline
  | .bytes bs => .bytes bs
  | .list xs => Value.outlineItems "[" "]" (Value.outlines xs)
  | .tuple xs => Value.outlineTuple (Value.outlines xs)
  | .set xs =>
    if xs.isEmpty then .atom "set()"
    else
      let sorted := Value.sortMembers (xs.zip (Value.outlines xs))
      .group (Value.literal (.set xs)) "\x7b" "\x7d" 1 (sorted.map fun part => ("", part))
  | .frozenset xs =>
    if xs.isEmpty then .atom "frozenset()"
    else
      let sorted := Value.sortMembers (xs.zip (Value.outlines xs))
      .group (Value.literal (.frozenset xs)) "frozenset(\x7b" "\x7d)" 2
        (sorted.map fun part => ("", part))
  | .dict es =>
    .group (Value.literal (.dict es)) "\x7b" "\x7d" 1 (Value.outlineEntries es)
  | .handle h => h.outline
  | .success v => Value.outlineRecord "Success" [("value", v.outline)]
  | .failure v => Value.outlineRecord "Failure" [("error", v.outline)]
  | .response ⟨status, body, headers, url⟩ =>
    let pair (h : String × String) : Outline :=
      Value.outlineTuple [Value.outlineText h.1, Value.outlineText h.2]
    Value.outlineRecord "HttpResponse"
      [("status_code", status.outline), ("body", .bytes body),
       ("headers", Value.outlineTuple (headers.map pair)), ("url", url.outline)]
  | .assertion a => a.outline
  | .summary successes failures failed =>
    Value.outlineRecord "AssertionSummary"
      [("num_successes", successes.outline), ("num_failures", failures.outline),
       ("failures", Value.outlineTuple (Value.outlines failed))]
  | .generator seed => Value.outlineRecord "MockGen" [("seed", seed.outline)]
  | .session id => outlineSession id
  | .environment e => e.outline
  | v => .atom v.literal

def Value.outlines : List Value → List Outline
  | [] => []
  | x :: xs => x.outline :: Value.outlines xs

/-- Entries, each labelled with its key. -/
def Value.outlineEntries : List (Value × Value) → List (String × Outline)
  | [] => []
  | (k, v) :: es => (k.literal ++ ": ", v.outline) :: Value.outlineEntries es

/-- Entries of a log, each with the name of its handle. -/
def Value.outlineLog : List (String × Value) → List Outline
  | [] => []
  | (name, v) :: es =>
    Value.outlineTuple [Value.outlineText name, v.outline] :: Value.outlineLog es

def Environment.outline : Environment → Outline
  | ⟨session, clientLocal, printLog, consoleOut, consoleQueue, consoleDefault, clock, tick,
      captured, fileExists, fileFull, fileOut, fileIn, generator, echo, consoleChar, assertions,
      context⟩ =>
    Value.outlineRecord "MockState"
      [("responder", .atom "<MockServer>"), ("session", outlineSession session),
       ("client_local", clientLocal.outline),
       ("print_log", Value.outlineTuple (Value.outlineLog printLog)),
       ("console_out", Value.outlineTuple (Value.outlines consoleOut)),
       ("console_in",
        Value.outlineTuple
          [Value.outlineTuple (Value.outlines consoleQueue), consoleDefault.outline]),
       ("clock", .atom clock.literal), ("tick", .atom tick.literal),
       ("captured_fault", .atom (Fault.literalOption captured)),
       ("file_exists", Value.outlineBool fileExists),
       ("file_full", Value.outlineBool fileFull),
       ("file_out", Value.outlineTuple (fileOut.map .bytes)),
       ("file_in", Value.outlineTuple (Value.outlines fileIn)),
       ("rng", .atom generator.literal), ("echo", Value.outlineBool echo),
       ("console_char", Value.outlineText consoleChar),
       ("assertions", Value.outlineTuple (assertions.map Assertion.outline)),
       ("context", Value.outlineTuple (Value.outlines context))]

end

namespace Value

/-- The lines of the literal, unless it would hold an integer that is too long. -/
def shownLines (v : Value) : Outcome (List String) :=
  if v.holdsLong then .error (.rejected .longNumber) else .ok v.outline.lines

end Value

end Rehearsal
