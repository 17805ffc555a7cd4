import Rehearsal.Program.Operand
import Rehearsal.Simulated.Aftermath
import Rehearsal.Simulated.Responder
import Rehearsal.Value.Draw
import Rehearsal.Value.Summary

/-!
# Simulated runs

A simulated run takes an environment to a value and to what it leaves behind, or stops with an
error, of which nothing is left. Each step of a sequence takes one tick of the clock: entering
the continuation of a `bind`, and resuming a body with the value of what it yielded.
Faults do not stop a run; the environment keeps the last one.
-/

namespace Rehearsal

namespace Environment

/-- A fresh environment with a session and a value kept for the server. -/
def start (session : Option String) (clientLocal : Value) : Environment :=
  { fresh with session := session.getD fresh.session, clientLocal }

/-- Moves the clock by one tick. -/
def advance (e : Environment) : Outcome Environment :=
  match e.clock.add? e.tick with
  | some clock => .ok { e with clock }
  | none => .error (.overflow .date)

def queueConsole (lines : List Value) (default : Value) (e : Environment) : Environment :=
  { e with consoleQueue := lines, consoleDefault := default }

def queueFiles (contents : List Value) (e : Environment) : Environment :=
  { e with fileIn := contents }

/-- All that was written to the standard output, oldest first. -/
def transcript (e : Environment) : Outcome Wording := Value.joined "" e.consoleOut.reverse

def writtenFiles (e : Environment) : List Text.Bytes := e.fileOut.reverse

def capture (f : Fault) (e : Environment) : Environment := { e with captured := some f }

/-- What is written to the standard output is kept apart from what is written to other handles. -/
def put (handle text : Value) (e : Environment) : Outcome Environment :=
  if handle.same (.handle .stdout) then .ok { e with consoleOut := text :: e.consoleOut }
  else do return { e with printLog := (← handle.name, text) :: e.printLog }

def getLine (e : Environment) : Value × Environment :=
  match e.consoleQueue with
  | [] => (e.consoleDefault, e)
  | line :: rest => (line, { e with consoleQueue := rest })

/-- An operation that gives nothing and captures a fault. -/
def failing (kind : FaultKind) (message : String) (path : Value) (e : Environment) :
    Outcome (Value × Environment) := do
  return (.none, e.capture (← Fault.make kind message path))

def loadFile (path : Value) (e : Environment) : Outcome (Value × Environment) :=
  if !e.fileExists then e.failing .notFound "file does not exist" path
  else match e.fileIn with
    | [] => e.failing .endOfInput "no queued file contents" path
    | contents :: rest => .ok (contents, { e with fileIn := rest })

def saveFile (path contents : Value) (e : Environment) : Outcome (Value × Environment) :=
  if e.fileFull then e.failing .storageFull "storage is full" path
  else do return (.none, { e with fileOut := (← contents.toBytes) :: e.fileOut })

/-- Every answer has to be a success or a failure. -/
def respond (server : Responder) (request : HttpRequest) (e : Environment) :
    Outcome (Value × Environment) := do
  let (answer, kept) ← server.answer e.clientLocal request
  match answer with
  | .success _ | .failure _ => return (answer, { e with clientLocal := kept })
  | _ => .error (.mismatch (.answer request.method))

def drawInt (e : Environment) : Value × Environment :=
  let (n, generator) := e.generator.randomInt
  (.int n, { e with generator })

def drawBetween (a b : Value) (e : Environment) : Outcome (Value × Environment) := do
  let (v, generator) ← e.generator.between a b
  return (v, { e with generator })

end Environment

/-- Carries out one request. -/
def Request.simulate (server : Responder) (r : Request) (e : Environment) :
    Outcome (Value × Aftermath) :=
  let left (result : Outcome (Value × Environment)) : Outcome (Value × Aftermath) :=
    result.map fun (v, after) => (v, .environment after)
  match r with
  | .getEcho _ => left (.ok (.bool e.echo, e))
  | .setEcho _ on => left (.ok (.none, { e with echo := on }))
  | .getChar _ => left (.ok (e.consoleChar, e))
  | .getLine _ => left (.ok e.getLine)
  | .put handle text => left do return (.none, ← e.put handle text)
  | .flush _ => left (.ok (.none, e))
  | .delay _ => left (.ok (.none, e))
  | .systemTime => left (.ok (.instant e.clock, e))
  | .fileExists _ => left (.ok (.bool e.fileExists, e))
  | .loadFile path => left (e.loadFile path)
  | .saveFile path contents => left (e.saveFile path contents)
  | .randomInt => left (.ok e.drawInt)
  | .randomBetween a b => left (e.drawBetween a b)
  | .http request _ => left (e.respond server request)
  | .newSession => left (.ok (.session e.session, e))
  | .record a => left (.ok (.none, { e with assertions := e.assertions ++ [a] }))
  | .context => left do return (.text (← Value.renderContext e.context), e)
  | .captured => left (.ok (.ofOption (e.captured.map .fault), e))
  | .clearFault => left (.ok (.none, { e with captured := none }))
  | .throw f => left (.ok (.none, e.capture f))
  | .getEnvironment => left (.ok (.environment e, e))
  | .putEnvironment v => .ok (.none, .ofValue v)
  | .putLocal v => left (.ok (.none, { e with clientLocal := v }))

/-- What an attempt makes of a value: the captured fault, if it is of the wanted kind, else the
value. -/
def Environment.attempted (kind : FaultKind) (v : Value) (e : Environment) : Value :=
  match e.captured with
  | some f => if kind.covers f.kind then .failure (.fault f) else .success v
  | none => .success v

/-- Entering a continuation takes a tick; one that came to no computation is refused before. -/
def Program.enter (p : Program) (after : Aftermath) : Outcome Environment :=
  match p.refusal? with
  | some error => .error error
  | none => do (← after.require "advance").advance

mutual

def Program.simulate (server : Responder) : Program → Environment → Outcome (Value × Aftermath)
  | .pure v, e => .ok (v, .environment e)
  | .fail error, _ => .error error
  | .ask r, e => r.simulate server e
  | .bind p next, e => do
    let (v, after) ← p.simulate server e
    let entered ← (next v).enter after
    (next v).simulate server entered
  | .map p change, e => do
    let (v, after) ← p.simulate server e
    return (← change v, after)
  | .body b, e => b.simulate server e
  | .attempt p kind, e => do
    let (v, after) ← p.simulate server e
    let left ← after.require "captured_fault"
    return (left.attempted kind v, after)
  | .nest name p, e => do
    let (v, after) ← p.simulate server { e with context := e.context ++ [name] }
    return (v, ← after.withContext e.context)

def Body.simulate (server : Responder) : Body → Environment → Outcome (Value × Aftermath)
  | .done v, e => .ok (v, .environment e)
  | .raise error, _ => .error error
  | .yield p next, e => do
    let (v, after) ← p.simulate server e
    let resumed ← (← after.require "advance").advance
    (next v).simulate server resumed

end

/-- Runs an operand, which has to be a simulated computation. -/
def Operand.simulate (server : Responder) (o : Operand) (e : Environment) :
    Outcome (Value × Aftermath) := do
  let p ← o.require .simulated
  p.simulate server e

/-- Runs a case tree and summarizes the assertions that were added. -/
def Tree.simulate (server : Responder) (tree : Tree Operand) (e : Environment) :
    Outcome (Summary × Environment) := do
  let o ← tree.compile .simulated
  let (_, after) ← o.simulate server e
  let left ← after.require "assertions"
  return (.ofList (left.assertions.drop e.assertions.length), left)

end Rehearsal
