import Rehearsal.Error

/-!
# Case trees

Cases in groups and under labels. The flat view lists the cases in order, each with the labels
around it, up to the first position that holds no tree.
-/

namespace Rehearsal

inductive Tree (α : Type) where
  | case (payload : α)
  | group (children : List (Tree α))
  | label (name : Value) (child : Tree α)
  /-- A value of the named kind where a tree should be. -/
  | stray (found : String)

/-- The cases met so far, and the kind of the value that ended the visit, if one did. -/
structure Visit (α : Type) where
  cases : List (List Value × α)
  stray : Option String

namespace Tree

mutual

def visit {α : Type} (context : List Value) : Tree α → Visit α
  | case payload => ⟨[(context, payload)], none⟩
  | group children => visitAll context children
  | label name child => visit (context ++ [name]) child
  | stray found => ⟨[], some found⟩

def visitAll {α : Type} (context : List Value) : List (Tree α) → Visit α
  | [] => ⟨[], none⟩
  | child :: rest =>
    let first := visit context child
    match first.stray with
    | some found => ⟨first.cases, some found⟩
    | none =>
      let later := visitAll context rest
      ⟨first.cases ++ later.cases, later.stray⟩

end

/-- All cases with the labels around them, if every position holds a tree. -/
def cases {α : Type} (context : List Value) (tree : Tree α) : Outcome (List (List Value × α)) :=
  let visit := tree.visit context
  match visit.stray with
  | none => .ok visit.cases
  | some found => .error (.mismatch (.treeNode found))

end Tree

end Rehearsal
