import Rehearsal.Error
import Rehearsal.Hash.Sha256

/-!
# The plain form of a value

Every value is reduced to a plain one: bytes to hexadecimal digits, times to texts, durations to
seconds, records to objects, sets to arrays in the order of their texts. Entries whose name is
among the dropped ones are left out at every depth. Keys that are no texts are shown as texts,
and of entries that come to share a name the last one stays. Of a handler of a server, which is a
function, there is nothing but the text that shows it.

Some values have no plain form: settings whose queued contents are no text, and keys or members of
sets that cannot be written. They are found beforehand, so the reduction itself is total.
-/

namespace Rehearsal

namespace Json

/-- Whether a name is among the dropped ones. -/
def isDropped (drop : List Wording) (name : Wording) : Bool := drop.any name.same

@[simp]
theorem isDropped_nil (name : Wording) : isDropped [] name = false := rfl

/-- An object without the dropped names. -/
def record (drop : List Wording) (fields : List (String × Json)) : Json :=
  ofFields (fields.filter fun field => !isDropped drop field.1)

def ofAssertion (drop : List Wording) (a : Assertion) : Json :=
  record drop
    [("statement", .text a.statement.reading), ("comment", .text a.comment.reading),
     ("context", .text a.context.reading), ("result", .text a.verdict.name)]

end Json

namespace Value

/-- The key under which an entry is kept. -/
def keyOf (v : Value) : Wording := v.wording?.getD v.display

/-- The text that shows a handler of the server that came to be at a place. -/
def handlerText (origin : Origin) (method : String) : String :=
  "<function " ++ method ++ " at " ++ commas (origin.map toString) ++ ">"

def plainServer (drop : List Wording) (origin : Origin) : Json :=
  Json.record drop
    [("get", .text (handlerText origin "get")), ("post", .text (handlerText origin "post")),
     ("delete", .text (handlerText origin "delete"))]

end Value

mutual

/-- The plain form without the dropped names. -/
def Value.plain (drop : List Wording) : Value → Json
  | .none => .null
  | .bool b => .bool b
  | .int n => .int n
  | .float x => .float x
  | .nan _ => .float Number.notANumber
  | .text w => .text w.reading
  | .bytes bs => .text (Text.hex bs)
  | .list items => .array (Value.plainAll drop items)
  | .tuple items => .array (Value.plainAll drop items)
  | .set items => .array (Json.sortByText (Value.plainAll drop items))
  | .frozenset items => .array (Json.sortByText (Value.plainAll drop items))
  | .dict entries => .object (Value.plainEntries drop [] entries)
  | .instant t => .text t.text
  | .duration d => .float d.totalSeconds
  | .handle h => Json.record drop [("name", .text h.name)]
  | .fault f => .text f.display
  | .success v => Json.record drop [("value", v.plain drop)]
  | .failure v => Json.record drop [("error", v.plain drop)]
  | .response r => r.plain drop
  | .assertion a => Json.ofAssertion drop a
  | .summary successes failures failed =>
    Json.record drop
      [("num_successes", successes.plain drop), ("num_failures", failures.plain drop),
       ("failures", .array (Value.plainAll drop failed))]
  | .generator seed => Json.record drop [("seed", seed.plain drop)]
  | .session id => Json.record drop [("session_id", .text id)]
  | .settings s => Json.record drop s.fields
  | .exception s _ => .text s
  | .server origin => Value.plainServer drop origin
  | .environment e => e.plain drop
  | .client index => .text (Value.client index).literal

def Value.plainAll (drop : List Wording) : List Value → List Json
  | [] => []
  | x :: xs => x.plain drop :: Value.plainAll drop xs

/-- Adds the entries that are not dropped to those collected so far. -/
def Value.plainEntries (drop : List Wording) (done : List (Wording × Json)) :
    List (Value × Value) → List (Wording × Json)
  | [] => done
  | (k, v) :: rest =>
    if Json.isDropped drop k.keyOf then Value.plainEntries drop done rest
    else Value.plainEntries drop (Json.put k.keyOf (v.plain drop) done) rest

/-- Entries of a log, each with the name of its handle. -/
def Value.plainLog (drop : List Wording) : List (String × Value) → List Json
  | [] => []
  | (name, v) :: rest => .array [.text name, v.plain drop] :: Value.plainLog drop rest

def Response.plain (drop : List Wording) : Response → Json
  | ⟨status, body, headers, url⟩ =>
    Json.record drop
      [("status_code", status.plain drop), ("body", .text (Text.hex body)),
       ("headers", .array (headers.map fun (k, v) => .array [.text k, .text v])),
       ("url", url.plain drop)]

/-- The place of its server is not kept in an environment. -/
def Environment.plain (drop : List Wording) : Environment → Json
  | ⟨session, clientLocal, printLog, consoleOut, consoleQueue, consoleDefault, clock, tick,
      captured, fileExists, fileFull, fileOut, fileIn, generator, echo, consoleChar, assertions,
      context⟩ =>
    Json.record drop
      [("responder", Value.plainServer drop []),
       ("session", Json.record drop [("session_id", .text session)]),
       ("client_local", clientLocal.plain drop),
       ("print_log", .array (Value.plainLog drop printLog)),
       ("console_out", .array (Value.plainAll drop consoleOut)),
       ("console_in",
        .array [.array (Value.plainAll drop consoleQueue), consoleDefault.plain drop]),
       ("clock", .text clock.text), ("tick", .float tick.totalSeconds),
       ("captured_fault", (captured.map fun f => Json.text f.display).getD .null),
       ("file_exists", .bool fileExists), ("file_full", .bool fileFull),
       ("file_out", .array (fileOut.map fun bytes => .text (Text.hex bytes))),
       ("file_in", .array (Value.plainAll drop fileIn)),
       ("rng", Json.record drop [("seed", .int generator.seed)]), ("echo", .bool echo),
       ("console_char", .text consoleChar),
       ("assertions", .array (assertions.map (Json.ofAssertion drop))),
       ("context", .array (Value.plainAll drop context))]

end

namespace Value

/-- The error of a key that is not a text and cannot be written as one. -/
def keyObstacle? (k : Value) : Option Error :=
  match k with
  | text _ => Option.none
  | k => if k.holdsLong then some (.rejected .longNumber) else Option.none

/-- The error of members of a set that cannot be ordered by their texts. -/
def orderObstacle? (items : List Json) : Option Error :=
  if Json.anyHoldsLong items then some (.rejected .longNumber) else Option.none

end Value

mutual

/-- The reason of the first part without a plain form that is not dropped. -/
def Value.obstacle? (drop : List Wording) : Value → Option Error
  | .list items | .tuple items => Value.firstObstacle? drop items
  | .set items | .frozenset items =>
    (Value.firstObstacle? drop items).or (Value.orderObstacle? (Value.plainAll drop items))
  | .dict entries => Value.entryObstacle? drop entries
  | .success v => if Json.isDropped drop "value" then Option.none else v.obstacle? drop
  | .failure v => if Json.isDropped drop "error" then Option.none else v.obstacle? drop
  | .response r => r.obstacle? drop
  | .summary successes failures failed =>
    (if Json.isDropped drop "num_successes" then Option.none else successes.obstacle? drop).or <|
      (if Json.isDropped drop "num_failures" then Option.none else failures.obstacle? drop).or <|
        if Json.isDropped drop "failures" then Option.none else Value.firstObstacle? drop failed
  | .generator seed => if Json.isDropped drop "seed" then Option.none else seed.obstacle? drop
  | .settings s => s.unreadable?.map .undecodable
  | .environment e => e.obstacle? drop
  | _ => Option.none

def Value.firstObstacle? (drop : List Wording) : List Value → Option Error
  | [] => Option.none
  | x :: xs => (x.obstacle? drop).or (Value.firstObstacle? drop xs)

def Value.entryObstacle? (drop : List Wording) : List (Value × Value) → Option Error
  | [] => Option.none
  | (k, v) :: rest =>
    k.keyObstacle?.or <|
      if Json.isDropped drop k.keyOf then Value.entryObstacle? drop rest
      else (v.obstacle? drop).or (Value.entryObstacle? drop rest)

def Response.obstacle? (drop : List Wording) : Response → Option Error
  | ⟨status, _, _, url⟩ =>
    (if Json.isDropped drop "status_code" then Option.none else status.obstacle? drop).or
      (if Json.isDropped drop "url" then Option.none else url.obstacle? drop)

def Value.logObstacle? (drop : List Wording) : List (String × Value) → Option Error
  | [] => Option.none
  | (_, v) :: rest => (v.obstacle? drop).or (Value.logObstacle? drop rest)

def Environment.obstacle? (drop : List Wording) : Environment → Option Error
  | ⟨_, clientLocal, printLog, consoleOut, consoleQueue, consoleDefault, _, _, _, _, _, _, fileIn,
      _, _, _, _, context⟩ =>
    (if Json.isDropped drop "client_local" then Option.none else clientLocal.obstacle? drop).or <|
      (if Json.isDropped drop "print_log" then Option.none
        else Value.logObstacle? drop printLog).or <|
      (if Json.isDropped drop "console_out" then Option.none
        else Value.firstObstacle? drop consoleOut).or <|
      (if Json.isDropped drop "console_in" then Option.none
        else (Value.firstObstacle? drop consoleQueue).or (consoleDefault.obstacle? drop)).or <|
      (if Json.isDropped drop "file_in" then Option.none
        else Value.firstObstacle? drop fileIn).or <|
      if Json.isDropped drop "context" then Option.none else Value.firstObstacle? drop context

end

namespace Value

/-- The plain form, or the reason why there is none. -/
def canonicalize (drop : List Wording) (v : Value) : Outcome Json :=
  match v.obstacle? drop with
  | some e => .error e
  | Option.none => .ok (v.plain drop)

/-- The text by which values are compared. -/
def canonicalText (v : Value) : Outcome Wording := do
  let plain ← v.canonicalize []
  if plain.holdsLong then .error (.rejected .longNumber) else return .ofPoints plain.write

def canonicalBytes (v : Value) : Outcome Text.Bytes := do
  (← v.canonicalText).encode.mapError .unencodable

def canonicalHash (v : Value) : Outcome String := v.canonicalBytes.map Hash.fingerprint

end Value

namespace Fault

def code (f : Fault) : String := f.kind.code

/-- The fault as it is shown in a snapshot. -/
def described (f : Fault) : Value :=
  .dict [("code", f.code), ("message", f.message), ("path", f.path)]

end Fault

namespace Environment

/-- All observable parts by their names. -/
def parts (e : Environment) : List (String × Value) :=
  [("print_log", .list (e.printLog.map fun (name, v) => .list [name, v])),
   ("console_out", .list e.consoleOut),
   ("console_in", .dict [("queued", .list e.consoleQueue), ("default", e.consoleDefault)]),
   ("clock", .instant e.clock),
   ("tick", .duration e.tick),
   ("captured_fault", .ofOption (e.captured.map Fault.described)),
   ("file_exists", .bool e.fileExists),
   ("file_full", .bool e.fileFull),
   ("file_out", .list (e.fileOut.map .bytes)),
   ("file_in", .list e.fileIn),
   ("rng_seed", .int e.generator.seed),
   ("echo", .bool e.echo),
   ("console_char", e.consoleChar),
   ("client_local", e.clientLocal),
   ("assertions", .list (e.assertions.map .assertion)),
   ("context", .list e.context)]

/-- All observable parts as one value. -/
def snapshot (e : Environment) : Value :=
  .dict (e.parts.map fun (name, v) => (.ofString name, v))

/-- The hash by which environments are compared. -/
def fingerprint (e : Environment) : Outcome String := e.snapshot.canonicalHash

end Environment

end Rehearsal
