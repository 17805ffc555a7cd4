import Rehearsal.Settings.Read
import Rehearsal.Value.Draw
import Rehearsal.Value.Response
import Rehearsal.Value.Slots
import Rehearsal.Value.Summary

/-!
# Expressions of scripts

Expressions give values from literals, variables, containers and a few functions. An expression
fails with the error of the part that fails first, from left to right. What is evaluated in one
place is a value of its own: numbers that are none, exceptions and servers are told apart
by their places.
-/

namespace Rehearsal.Script

/-- Functions of expressions. -/
inductive Function where
  | value
  | fault
  | isSuccess
  | code
  | text
  | json
  | status
  | body
  | header
  | display
  | literal
  | length
  | item
  | add
  | less
  | equal
  | tuple
  | encode
  | summarize
  | split
deriving DecidableEq, Repr

inductive Expr where
  | value (v : Value)
  /-- An integer by its decimal digits. -/
  | integer (negative : Bool) (digits : List Char)
  | float (x : Float)
  | duration (days seconds micros : Int)
  | named (name : String)
  | list (items : List Expr)
  | tuple (items : List Expr)
  | set (items : List Expr)
  | frozenset (items : List Expr)
  | dict (entries : List (Expr × Expr))
  | success (e : Expr)
  | failure (e : Expr)
  | fault (kind : FaultKind) (message path : Expr)
  | response (status : Expr) (body : Text.Bytes) (headers : List (String × String)) (url : Expr)
  | assertion (holds statement context comment : Expr)
  | summary (successes failures : Expr) (failed : List Expr)
  | generator (seed : Expr)
  | settings (fields : Expr)
  | exception (text : String)
  | server
  | call (f : Function) (arguments : List Expr)

/-- Where an evaluation takes place, and the values of variables, latest first. -/
structure Scope where
  place : Origin
  bindings : List (String × Value) := []

namespace Scope

/-- The scope of the part with that number. -/
def part (number : Nat) (s : Scope) : Scope := { s with place := number :: s.place }

def bind (name : Option String) (v : Value) (s : Scope) : Scope :=
  match name with
  | some name => { s with bindings := (name, v) :: s.bindings }
  | none => s

def lookup (name : String) (s : Scope) : Outcome Value :=
  match s.bindings.find? (·.1 == name) with
  | some (_, v) => .ok v
  | none => .error (.key (Text.literal name))

end Scope

/-- An integer that has not too many digits. -/
def integerOf (negative : Bool) (digits : List Char) : Outcome Value :=
  if Number.digitLimit < digits.length then .error (.rejected (.longNumeral digits.length))
  else
    let n : Int := Number.ofDigits digits
    .ok (.int (if negative then -n else n))

/-- An assertion from values; the fields are checked in their order. -/
def assertionOf (statement comment context verdict : Value) : Outcome Assertion :=
  match statement.wording?, comment.wording?, context.wording?, verdict with
  | some s, some c, some x, .text (.verdict v) => .ok ⟨s, c, x, v⟩
  | none, _, _, _ => .error (.mismatch (.field "statement"))
  | _, none, _, _ => .error (.mismatch (.field "comment"))
  | _, _, none, _ => .error (.mismatch (.field "context"))
  | _, _, _, _ => .error (.mismatch .verdict)

/-- The parts of a text, or two generators to go on with. -/
def splitOf (place : Origin) (v : Value) : Outcome Value :=
  match v with
  | .generator seed => do
    let (left, right) ← seed.splitSeed
    return .tuple [.generator left, .generator (right.renewed place)]
  | v => v.split

namespace Function

/-- Applies a function of one argument. -/
def apply1 (place : Origin) (f : Function) (x : Value) : Outcome Value :=
  match f, x with
  | value, .success v => .ok v
  | value, .text (.verdict v) => .ok v.name
  | value, x => .error (.member x.kindName "value")
  | fault, .failure e => .ok e
  | fault, x => .error (.member x.kindName "error")
  | isSuccess, .success _ => .ok (.bool true)
  | isSuccess, .failure _ => .ok (.bool false)
  | isSuccess, x => .error (.member x.kindName "is_success")
  | code, .fault f => .ok f.kind.code
  | code, x => .error (.member x.kindName "code")
  | text, .response r => r.text
  | text, x => .error (.member x.kindName "text")
  | json, .response r => r.document
  | json, .settings s =>
    match s.failure? with
    | some f => .error (.unwritable f)
    | none => .ok (.ofString s.documentText)
  | json, x => .error (.member x.kindName "json")
  | status, .response r => .ok r.status
  | status, x => .error (.member x.kindName "status_code")
  | body, .response r => .ok (.bytes r.body)
  | body, x => .error (.member x.kindName "body")
  | display, x => x.displayed.map .text
  | literal, x => do return .ofString (← x.shown)
  | length, x => x.length.map fun n => .int n
  | encode, .text w => (w.encode.mapError .unencodable).map .bytes
  | encode, x => .error (.member x.kindName "encode")
  | summarize, x => do Value.summarize (← x.elements)
  | split, x => splitOf place x
  | tuple, x => .ok (.tuple [x])
  | _, _ => .error (.mismatch .keyword)

/-- Applies a function of two arguments. A sum is a value of its own. -/
def apply2 (place : Origin) (f : Function) (x y : Value) : Outcome Value :=
  match f, x with
  | header, .response r => r.header y
  | header, x => .error (.member x.kindName "header")
  | item, x => x.item y
  | add, x => x.add place y
  | less, x => (x.less y).map .bool
  | equal, x => .ok (.bool (x.same y))
  | tuple, x => .ok (.tuple [x, y])
  | _, _ => .error (.mismatch .keyword)

def apply (place : Origin) (f : Function) (arguments : List Value) : Outcome Value :=
  match f, arguments with
  | f, [x] => f.apply1 place x
  | f, [x, y] => f.apply2 place x y
  | tuple, arguments => .ok (.tuple arguments)
  | _, _ => .error (.mismatch .keyword)

end Function

namespace Expr

mutual

def eval (scope : Scope) : Expr → Outcome Value
  | value v => .ok v
  | integer negative digits => integerOf negative digits
  | float x => .ok (.ofFloat scope.place x)
  | duration days seconds micros =>
    Value.durationOf (Time.Duration.ofParts days seconds micros).micros
  | named name => scope.lookup name
  | list items => (evalAll scope 0 items).map .list
  | tuple items => (evalAll scope 0 items).map .tuple
  | set items => do return .setOf (← evalMembers scope 0 items)
  | frozenset items => do return .frozensetOf (← evalMembers scope 0 items)
  | dict entries => do return .dictOf (← evalEntries scope 0 entries)
  | success e => (eval scope e).map .success
  | failure e => (eval scope e).map .failure
  | fault kind message path => do
    let m ← eval (scope.part 0) message
    let p ← eval (scope.part 1) path
    return .fault (← Fault.make kind m p)
  | response status body headers url => do
    let status ← eval (scope.part 0) status
    let url ← eval (scope.part 1) url
    return .response { status, body, headers, url }
  | assertion holds statement context comment => do
    let h ← eval (scope.part 0) holds
    let s ← eval (scope.part 1) statement
    let x ← eval (scope.part 2) context
    let c ← eval (scope.part 3) comment
    return .assertion (← assertionOf s c x (.verdict (.ofBool h.truth)))
  | summary successes failures failed => do
    let s ← eval (scope.part 0) successes
    let f ← eval (scope.part 1) failures
    Value.summaryOf s f (← evalAll (scope.part 2) 0 failed)
  | generator seed => (eval scope seed).map .generator
  | settings fields => do
    return .settings (← Settings.ofValue (← eval scope fields))
  | exception text => .ok (.exception text scope.place)
  | server => .ok (.server scope.place)
  | call f arguments => do f.apply scope.place (← evalAll scope 0 arguments)

/-- The values of parts that are numbered from `number` on. -/
def evalAll (scope : Scope) (number : Nat) : List Expr → Outcome (List Value)
  | [] => .ok []
  | e :: rest => do
    let v ← eval (scope.part number) e
    return v :: (← evalAll scope (number + 1) rest)

/-- The same for the members of a set. -/
def evalMembers (scope : Scope) (number : Nat) : List Expr → Outcome (List Value)
  | [] => .ok []
  | e :: rest => do
    let v ← eval (scope.part number) e
    v.hashable
    return v :: (← evalMembers scope (number + 1) rest)

def evalEntries (scope : Scope) (number : Nat) :
    List (Expr × Expr) → Outcome (List (Value × Value))
  | [] => .ok []
  | (k, e) :: rest => do
    let key ← eval (scope.part number) k
    let v ← eval (scope.part (number + 1)) e
    key.hashable
    return (key, v) :: (← evalEntries scope (number + 2) rest)

end

end Expr

end Rehearsal.Script
