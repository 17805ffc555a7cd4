import Rehearsal.Script.Action

/-!
# Scripts

A script is the text of a program: actions, put together by the ways to combine computations. It
is built for one interpreter. Nested scripts are built with the script around them, except
where they may depend on values of the run: those are built when the run reaches them.
-/

namespace Rehearsal

mutual

inductive Script where
  | action (a : Script.Action)
  /-- A value in the place of a computation. -/
  | raw (v : Script.Expr)
  /-- A computation of the other interpreter. -/
  | foreign
  /-- A body that yields its lines in order, naming their values, and gives a value at the end. -/
  | block (lines : List (Option String × Script)) (last : Script.Expr)
  /-- A body that yields a script several times and gives the list of the values. -/
  | repeated (count : Nat) (s : Script)
  | sequence (scripts : List Script)
  | bind (first : Script) (name : String) (next : Script)
  | map (first : Script) (name : String) (change : Script.Expr)
  | cond (condition : Script.Expr) (yes no : Script)
  | attempt (s : Script) (kind : FaultKind)
  | nest (name : Value) (s : Script)
  | tree (t : CaseScript)

/-- The text of a case tree. -/
inductive CaseScript where
  | case (s : Script)
  | group (children : List CaseScript)
  | label (name : Value) (child : CaseScript)
  /-- A value in the place of a tree. -/
  | stray (v : Script.Expr)

end

open Script (Expr Scope)

mutual

def Script.build (i : Interpreter) (scope : Scope) : Script → Outcome Operand
  | .action a => a.build i scope
  | .raw v => (v.eval scope).map .value
  | .foreign => .ok .foreign
  | .block lines last => .ok (.program (.body (Script.buildBlock i scope 0 lines last)))
  | .repeated count s =>
    .ok (.program (.body (.repeated i (fun turn => s.build i (scope.part turn)) 0 count [])))
  | .sequence scripts => do
    let operands ← Script.buildAll i scope 0 scripts
    return .program (.body (.sequence i operands))
  | .bind first name next => do
    let o ← first.build i (scope.part 0)
    o.bind fun v => .ofOutcome do
      let following ← next.build i ((scope.part 1).bind (some name) v)
      following.require i
  | .map first name change => do
    let o ← first.build i (scope.part 0)
    o.map fun v => change.eval ((scope.part 1).bind (some name) v)
  | .cond condition yes no => do
    let holds ← condition.eval (scope.part 0)
    if holds.truth then yes.build i (scope.part 1) else no.build i (scope.part 1)
  | .attempt s kind => do
    let o ← s.build i scope
    o.attempt i kind
  | .nest name s => do
    let o ← s.build i scope
    o.nest i name
  | .tree t => do
    let built ← t.build i scope
    built.compile i

/-- The body of a block; each line is built when it is reached. -/
def Script.buildBlock (i : Interpreter) (scope : Scope) (number : Nat) :
    List (Option String × Script) → Expr → Body
  | [], last =>
    match last.eval (scope.part number) with
    | .ok v => .done v
    | .error e => .raise e
  | (name, s) :: rest, last =>
    match s.build i (scope.part number) with
    | .ok o => .yieldOperand i o fun v =>
      Script.buildBlock i (scope.bind name v) (number + 1) rest last
    | .error e => .raise e

/-- The operands of scripts that are numbered from `number` on. -/
def Script.buildAll (i : Interpreter) (scope : Scope) (number : Nat) :
    List Script → Outcome (List Operand)
  | [] => .ok []
  | s :: rest => do
    let o ← s.build i (scope.part number)
    let os ← Script.buildAll i scope (number + 1) rest
    return o :: os

/-- A tree with the operands of its cases. -/
def CaseScript.build (i : Interpreter) (scope : Scope) : CaseScript → Outcome (Tree Operand)
  | .case s => (s.build i scope).map .case
  | .group children => (CaseScript.buildAll i scope 0 children).map .group
  | .label name child => (child.build i scope).map (.label name)
  | .stray v => (v.eval scope).map fun v => .stray v.typeName

def CaseScript.buildAll (i : Interpreter) (scope : Scope) (number : Nat) :
    List CaseScript → Outcome (List (Tree Operand))
  | [] => .ok []
  | t :: rest => do
    let built ← t.build i (scope.part number)
    let others ← CaseScript.buildAll i scope (number + 1) rest
    return built :: others

end

end Rehearsal
