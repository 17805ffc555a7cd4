import Rehearsal.Program.Basic
import Rehearsal.Tree

/-!
# Operands

What may stand where an interpreter expects a computation: one of its own, one of another
interpreter, or a value that is none. Only the first can be run; the others are refused with the
name of their kind, at the moment at which they are needed.
-/

namespace Rehearsal

inductive Operand where
  | program (p : Program)
  | foreign
  | value (v : Value)

namespace Operand

def kindName (i : Interpreter) : Operand → String
  | program _ => i.computationName
  | foreign => i.other.computationName
  | value v => v.typeName

/-- The program of an operand that can be run. -/
def require (i : Interpreter) : Operand → Outcome Program
  | program p => .ok p
  | o => .error (.mismatch (.computation (o.kindName i) i))

/-- A computation of another interpreter stays one when it is extended. -/
def extend (name : String) (extension : Program → Program) : Operand → Outcome Operand
  | program p => .ok (program (extension p))
  | foreign => .ok foreign
  | value v => .error (.member v.kindName name)

def bind (next : Value → Program) : Operand → Outcome Operand := extend "bind" (.bind · next)

def map (change : Value → Outcome Value) : Operand → Outcome Operand :=
  extend "map" (.map · change)

def attempt (i : Interpreter) (kind : FaultKind) (o : Operand) : Outcome Operand :=
  (o.require i).map fun p => program (.attempt p kind)

def nest (i : Interpreter) (name : Value) (o : Operand) : Outcome Operand :=
  (o.require i).map fun p => program (.nest name p)

end Operand

namespace Body

/-- Yields an operand, which is refused if it cannot be run. -/
def yieldOperand (i : Interpreter) (o : Operand) (next : Value → Body) : Body :=
  match o.require i with
  | .ok p => yield p next
  | .error e => raise e

/-- Runs operands from left to right and forgets their values. -/
def sequence (i : Interpreter) : List Operand → Body
  | [] => done .none
  | o :: rest => yieldOperand i o fun _ => sequence i rest

/-- Runs an operand `count` times, each time made anew, and gives the list of its values; `done`
times it has run. -/
def repeated (i : Interpreter) (operand : Nat → Outcome Operand) (done : Nat) :
    Nat → List Value → Body
  | 0, values => .done (.list values.reverse)
  | count + 1, values =>
    match operand done with
    | .error e => raise e
    | .ok o => yieldOperand i o fun v => repeated i operand (done + 1) count (v :: values)

end Body

namespace Tree

mutual

/-- One computation that runs all cases in order, each under its labels. -/
def compile (i : Interpreter) : Tree Operand → Outcome Operand
  | case o => .ok o
  | group children => do
    let operands ← compileAll i children
    return .program (.body (.sequence i operands))
  | label name child => do
    let o ← compile i child
    o.nest i name
  | stray found => .error (.mismatch (.treeNode found))

def compileAll (i : Interpreter) : List (Tree Operand) → Outcome (List Operand)
  | [] => .ok []
  | child :: rest => do
    let o ← compile i child
    let os ← compileAll i rest
    return o :: os

end

end Tree

end Rehearsal
