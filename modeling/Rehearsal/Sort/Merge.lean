import Rehearsal.Sort.Search

/-!
# Merging two runs

Two neighbouring runs become one, from their fronts or from their backs, whichever needs less to be
set aside. Items are taken one by one until one run wins several times in a row; from then on the
merge gallops, which means that it searches for how many items of a run come next, as long as that
pays. How many wins start galloping is learned from merge to merge. An order with gaps shows in the
result, so these steps are part of what a sort does.
-/

namespace Rehearsal.Sort

variable {α ε : Type}

/-- The number of wins in a row that keeps a merge galloping. -/
def winsToGallop : Nat := 7

/-- A merge on its way. Both runs are in the order in which they are taken, from the back if
`backwards`. -/
structure Merge (α : Type) where
  backwards : Bool
  left : List α
  right : List α
  /-- What has been taken, latest first. -/
  taken : List α := []
  /-- The number of wins in a row that starts galloping here. -/
  threshold : Nat
  /-- The number that later merges start with. -/
  learned : Nat

namespace Merge

def takeLeft (count : Nat) (m : Merge α) : Merge α :=
  { m with left := m.left.drop count, taken := (m.left.take count).reverse ++ m.taken }

def takeRight (count : Nat) (m : Merge α) : Merge α :=
  { m with right := m.right.drop count, taken := (m.right.take count).reverse ++ m.taken }

/-- The run that was set aside, and the other one. -/
def runs (m : Merge α) : List α × List α :=
  if m.backwards then (m.right, m.left) else (m.left, m.right)

/-- The merged items and what was learned, once the order of the rest is known: one run is used up,
or one item is set aside, which comes last. -/
def result? (m : Merge α) : Option (List α × Nat) :=
  let rest := match m.runs with
    | (aside, []) => some aside
    | ([], others) => some others
    | ([x], others) => some (others ++ [x])
    | _ => none
  rest.map fun rest =>
    let all := m.taken.reverse ++ rest
    (if m.backwards then all.reverse else all, m.learned)

/-- How many items of a run come next, found by galloping. -/
def ahead (passes : α → Except ε Bool) (backwards : Bool) (run : List α) : Except ε Nat := do
  if backwards then return run.length - (← gallop passes run.reverse.toArray (run.length - 1))
  else gallop passes run.toArray 0

/-- One round of galloping: items of the left run and one of the right, then items of the right run
and one of the left; and whether it pays to go on. -/
def round (lt : α → α → Except ε Bool) (m : Merge α) : Except ε (Merge α × Bool) := do
  let threshold := if 1 < m.threshold then m.threshold - 1 else m.threshold
  let m := { m with threshold, learned := threshold }
  let some y := m.right.head? | return (m, false)
  let lefts ← ahead (fun x => do return !(← lt y x)) m.backwards m.left
  let m := m.takeLeft lefts
  if m.result?.isSome then return (m, false)
  let m := m.takeRight 1
  if m.result?.isSome then return (m, false)
  let some x := m.left.head? | return (m, false)
  let rights ← ahead (fun y => lt y x) m.backwards m.right
  let m := m.takeRight rights
  if m.result?.isSome then return (m, false)
  return (m.takeLeft 1, decide (winsToGallop ≤ lefts) || decide (winsToGallop ≤ rights))

/-- Whether a merge takes items one by one, after some wins of the left and of the right run, or
gallops. -/
inductive Pace where
  | single (lefts rights : Nat)
  | galloping

/-- Merges to the end; each step takes an item, so the number of items is fuel enough. -/
def run (lt : α → α → Except ε Bool) : Nat → Pace → Merge α → Except ε (List α × Nat)
  | 0, _, m => .ok (m.taken.reverse ++ m.left ++ m.right, m.learned)
  | fuel + 1, pace, m =>
    match m.result? with
    | some result => .ok result
    | none =>
      match pace, m.left, m.right with
      | .galloping, _, _ => do
        let (m, pays) ← round lt m
        if pays || m.result?.isSome then run lt fuel .galloping m
        else
          let threshold := m.threshold + 1
          run lt fuel (.single 0 0) { m with threshold, learned := threshold }
      | .single lefts rights, x :: _, y :: _ => do
        let (pace, wins, m) :=
          if (← lt y x) != m.backwards then
            (Pace.single 0 (rights + 1), rights + 1, m.takeRight 1)
          else (Pace.single (lefts + 1) 0, lefts + 1, m.takeLeft 1)
        if m.threshold ≤ wins then
          run lt fuel .galloping { m with threshold := m.threshold + 1 }
        else run lt fuel pace m
      | _, left, right => .ok (m.taken.reverse ++ left ++ right, m.learned)

end Merge

/-- Merges two neighbouring runs, each of which has an item. What stays in its place at both ends is
left alone. -/
def mergeRuns (lt : α → α → Except ε Bool) (learned : Nat) (left right : List α) :
    Except ε (List α × Nat) := do
  let some first := right.head? | return (left, learned)
  let before ← gallop (fun x => do return !(← lt first x)) left.toArray 0
  let inner := left.drop before
  let some last := inner.getLast? | return (left ++ right, learned)
  let count ← gallop (fun y => lt y last) right.toArray (right.length - 1)
  let others := right.take count
  if others.isEmpty then return (left ++ right, learned)
  let fuel := inner.length + others.length + 1
  let merge : Merge α :=
    if inner.length ≤ others.length then
      Merge.takeRight 1 ⟨false, inner, others, [], learned, learned⟩
    else Merge.takeLeft 1 ⟨true, inner.reverse, others.reverse, [], learned, learned⟩
  let (merged, learned) ← merge.run lt fuel (.single 0 0)
  return (left.take before ++ merged ++ right.drop count, learned)

end Rehearsal.Sort
