import Rehearsal.Program.Assert
import Rehearsal.Program.Operand
import Rehearsal.Script.Expr

/-!
# Actions of scripts

An action is one operation of an interpreter with expressions as arguments. Building it checks
the arguments that the operation checks when it is asked for; every other argument is handed on as
it is.
-/

namespace Rehearsal.Script

inductive Action where
  | pure (v : Expr)
  | standardInput
  | standardOutput
  | standardError
  | getEcho (handle : Expr)
  | setEcho (handle on : Expr)
  | getChar (handle : Expr)
  | getLine (handle : Expr)
  | putChar (handle char : Expr)
  | put (handle text : Expr)
  | putLine (handle text : Expr)
  | flush (handle : Expr)
  | delay (microseconds : Expr)
  | systemTime
  | fileExists (path : Expr)
  | loadFile (path : Expr)
  | saveFile (path contents : Expr)
  | randomInt
  | randomBetween (a b : Expr)
  | http (method : HttpMethod) (url : Expr) (payload session : Expr)
  | newSession
  | record (assertion : Expr)
  | context
  | captured
  | clearFault
  | throw (fault : Expr)
  | getEnvironment
  | putEnvironment (environment : Expr)
  | putLocal (value : Expr)
  | assertIf (holds statement comment : Expr)
  | assertSuccess (comment : Expr)
  | assertFailure (comment : Expr)
  | assertTrue (v comment : Expr)
  | assertFalse (v comment : Expr)
  | assertEqual (x y comment : Expr)
  | assertNotEqual (x y comment : Expr)
  | assertIsSubstring (x y comment : Expr)
  | assertIsNotSubstring (x y comment : Expr)
  | assertIsNamedSubstring (x y name comment : Expr)
  | assertIsNotNamedSubstring (x y name comment : Expr)
  | assertMatchesSchema (document schema comment name : Expr)
  | printSummary (summary : Expr) (color : Bool)

/-- The name of an operation that no host has. -/
def Action.simulatedOnly? : Action → Option String
  | captured => some "get_fault"
  | clearFault => some "clear_fault"
  | throw _ => some "throw"
  | getEnvironment => some "get_state"
  | putEnvironment _ => some "put_state"
  | putLocal _ => some "put_local"
  | _ => none

/-- A single character to be written. -/
def writingChar (handle char : Value) : Outcome Program := do
  if (← char.length) = 1 then return .ask (.put handle char) else .error (.rejected .oneCharacter)

/-- A pause is not negative. -/
def pausing (microseconds : Value) : Outcome Program := do
  if ← microseconds.less (.int 0) then .error (.rejected .delay)
  else return .ask (.delay microseconds)

/-- A host compares the bounds of a draw at once, a simulation when it draws. What is drawn is a
value of its own. -/
def drawing (i : Interpreter) (place : Origin) (a b : Value) : Outcome Program := do
  let (low, high) ← if i = .host then Value.ordered a b else .ok (a, b)
  return .map (.ask (.randomBetween low high)) fun v => .ok (v.renewed place)

/-- Only a post has a payload, which has to have bytes. -/
def requesting (method : HttpMethod) (url payload session : Value) : Outcome Program := do
  let payload ← if method = .post then payload.toBytes else .ok []
  return .ask (.http { method, url, payload } session)

def recording (v : Value) : Outcome Program :=
  match v with
  | .assertion a => .ok (.ask (.record a))
  | _ => .error (.mismatch .assertion)

def throwing (v : Value) : Outcome Program :=
  match v with
  | .fault f => .ok (.ask (.throw f))
  | _ => .error (.mismatch .fault)

/-- On a host a time is shown by its distance from universal time. -/
def timeReading (i : Interpreter) : Program :=
  match i with
  | .simulated => .ask .systemTime
  | .host => .map (.ask .systemTime) fun v =>
    match v with
    | .instant t => .ok (.ofOption (t.offset.map fun o => .duration o.duration))
    | v => .ok v

/-- The program of an action whose arguments are evaluated from left to right. -/
def Action.program (i : Interpreter) (scope : Scope) (a : Action) : Outcome Program :=
  let get (number : Nat) (e : Expr) : Outcome Value := e.eval (scope.part number)
  let one (e : Expr) (next : Value → Outcome Program) : Outcome Program := do next (← get 0 e)
  let two (d e : Expr) (next : Value → Value → Outcome Program) : Outcome Program := do
    next (← get 0 d) (← get 1 e)
  let three (d e f : Expr) (next : Value → Value → Value → Outcome Program) :
      Outcome Program := do
    next (← get 0 d) (← get 1 e) (← get 2 f)
  let four (d e f g : Expr) (next : Value → Value → Value → Value → Outcome Program) :
      Outcome Program := do
    next (← get 0 d) (← get 1 e) (← get 2 f) (← get 3 g)
  match a with
  | pure v => one v fun v => .ok (.pure v)
  | standardInput => .ok .standardInput
  | standardOutput => .ok .standardOutput
  | standardError => .ok .standardError
  | getEcho h => one h fun h => .ok (.ask (.getEcho h))
  | setEcho h on => two h on fun h on => .ok (.ask (.setEcho h on.truth))
  | getChar h => one h fun h => .ok (.ask (.getChar h))
  | getLine h => one h fun h => .ok (.ask (.getLine h))
  | putChar h char => two h char writingChar
  | put h text => two h text fun h text => .ok (.ask (.put h text))
  | putLine h text => two h text fun h text => do
    return .ask (.put h (← text.add scope.place (.ofString "\n")))
  | flush h => one h fun h => .ok (.ask (.flush h))
  | delay microseconds => one microseconds pausing
  | systemTime => .ok (timeReading i)
  | fileExists path => one path fun path => .ok (.ask (.fileExists path))
  | loadFile path => one path fun path => .ok (.ask (.loadFile path))
  | saveFile path contents => two path contents fun path v => .ok (.ask (.saveFile path v))
  | randomInt => .ok (.ask .randomInt)
  | randomBetween a b => two a b (drawing i scope.place)
  | http method url payload session => three url payload session (requesting method)
  | newSession => .ok (.ask .newSession)
  | record v => one v recording
  | context => .ok (.ask .context)
  | captured => .ok (.ask .captured)
  | clearFault => .ok (.ask .clearFault)
  | throw v => one v throwing
  | getEnvironment => .ok (.ask .getEnvironment)
  | putEnvironment v => one v fun v => .ok (.ask (.putEnvironment v))
  | putLocal v => one v fun v => .ok (.ask (.putLocal v))
  | assertIf holds statement comment => three holds statement comment fun holds s c =>
    Program.assertIf holds.truth s c
  | assertSuccess comment => one comment Program.assertSuccess
  | assertFailure comment => one comment Program.assertFailure
  | assertTrue v comment => two v comment Program.assertTrue
  | assertFalse v comment => two v comment Program.assertFalse
  | assertEqual x y comment => three x y comment Program.assertEqual
  | assertNotEqual x y comment => three x y comment Program.assertNotEqual
  | assertIsSubstring x y comment => three x y comment Program.assertIsSubstring
  | assertIsNotSubstring x y comment => three x y comment Program.assertIsNotSubstring
  | assertIsNamedSubstring x y name comment =>
    four x y name comment Program.assertIsNamedSubstring
  | assertIsNotNamedSubstring x y name comment =>
    four x y name comment Program.assertIsNotNamedSubstring
  | assertMatchesSchema document schema comment name =>
    four document schema comment name Program.assertMatchesSchema
  | printSummary v color => one v fun v => .ok (.printSummary color v)

/-- The operand of an action; on a host some operations do not exist. -/
def Action.build (i : Interpreter) (scope : Scope) (a : Action) : Outcome Operand :=
  match i, a.simulatedOnly? with
  | .host, some name => .error (.member i.name name)
  | _, _ => (a.program i scope).map .program

end Rehearsal.Script
