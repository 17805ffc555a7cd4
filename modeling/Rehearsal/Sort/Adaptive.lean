import Rehearsal.Sort.Merge

/-!
# Adaptive sorting

A stable sort that uses the runs it finds. A run that goes down is turned round, a short one is
lengthened by putting items in, and neighbouring runs are merged by their power, which is the depth
of their border in a balanced tree over all items. Without a total order the result depends on
these steps.
-/

namespace Rehearsal.Sort

variable {α ε : Type}

/-- The rest of a run that goes down, or that does not go down, and what follows it. -/
def runFrom (lt : α → α → Except ε Bool) (down : Bool) (last : α) :
    List α → Except ε (List α × List α)
  | [] => .ok ([], [])
  | x :: xs => do
    if (← lt x last) == down then
      let (run, rest) ← runFrom lt down x xs
      return (x :: run, rest)
    else return ([], x :: xs)

/-- The first run, turned round if it goes down, and what follows it. -/
def firstRun (lt : α → α → Except ε Bool) : List α → Except ε (List α × List α)
  | x :: y :: rest => do
    let down ← lt y x
    let (run, others) ← runFrom lt down y rest
    let first := x :: y :: run
    return (if down then first.reverse else first, others)
  | few => .ok (few, [])

/-- Puts items into a run, each behind those that it does not precede. -/
def insertAll (lt : α → α → Except ε Bool) (run : List α) : List α → Except ε (List α)
  | [] => .ok run
  | x :: xs => do
    let passes (y : α) : Except ε Bool := do return !(← lt x y)
    let place ← bisect passes run.toArray (run.length + 1) 0 run.length
    insertAll lt (run.take place ++ x :: run.drop place) xs

/-- The leading bits of a length below 64, one more if any of the others is set. -/
def shortRun (fuel length : Nat) (odd : Bool) : Nat :=
  match fuel with
  | 0 => length
  | fuel + 1 =>
    if length < 64 then length + odd.toNat
    else shortRun fuel (length / 2) (odd || length % 2 == 1)

/-- A run that waits to be merged. -/
structure Waiting (α : Type) where
  start : Nat
  items : List α
  /-- The power of the border behind the run. -/
  power : Nat := 0

/-- The first binary digit in which two fractions of a whole differ. -/
def firstDifference (whole : Nat) : Nat → Nat → Nat → Nat → Nat
  | 0, _, _, digit => digit
  | fuel + 1, a, b, digit =>
    if whole ≤ a then firstDifference whole fuel (2 * (a - whole)) (2 * (b - whole)) (digit + 1)
    else if whole ≤ b then digit + 1
    else firstDifference whole fuel (2 * a) (2 * b) (digit + 1)

/-- The power of the border between a run and the next one, from the middles of both. -/
def borderPower (whole : Nat) (run : Waiting α) (next : Nat) : Nat :=
  let middle := 2 * run.start + run.items.length
  firstDifference whole (2 * whole + 2) middle (middle + run.items.length + next) 0

/-- Merges waiting runs, of which the last one comes first, up to a border of less power. -/
def settle (lt : α → α → Except ε Bool) (power : Nat) :
    Waiting α → List (Waiting α) → Nat → Except ε (List (Waiting α) × Nat)
  | top, [], learned => .ok ([{ top with power }], learned)
  | top, below :: rest, learned =>
    if power < below.power then do
      let (items, learned) ← mergeRuns lt learned below.items top.items
      settle lt power { below with items } rest learned
    else .ok ({ top with power } :: below :: rest, learned)

/-- Finds runs and merges them as far as their powers ask for. -/
def collect (lt : α → α → Except ε Bool) (whole least : Nat) :
    Nat → Nat → List α → List (Waiting α) → Nat → Except ε (List (Waiting α) × Nat)
  | 0, _, _, waiting, learned => .ok (waiting, learned)
  | _ + 1, _, [], waiting, learned => .ok (waiting, learned)
  | fuel + 1, start, items, waiting, learned => do
    let (found, rest) ← firstRun lt items
    let missing := least - found.length
    let run ← insertAll lt found (rest.take missing)
    let (waiting, learned) ← match waiting with
      | [] => pure ([], learned)
      | top :: below => settle lt (borderPower whole top run.length) top below learned
    collect lt whole least fuel (start + run.length) (rest.drop missing)
      (⟨start, run, 0⟩ :: waiting) learned

/-- Merges all waiting runs, of which the last one comes first; of three the shorter outer one is
merged first. -/
def mergeAll (lt : α → α → Except ε Bool) :
    Nat → List (Waiting α) → Nat → Except ε (List α)
  | 0, waiting, _ => .ok (waiting.reverse.flatMap (·.items))
  | _ + 1, [], _ => .ok []
  | _ + 1, [only], _ => .ok only.items
  | fuel + 1, top :: middle :: rest, learned =>
    match rest with
    | bottom :: others =>
      if bottom.items.length < top.items.length then do
        let (items, learned) ← mergeRuns lt learned bottom.items middle.items
        mergeAll lt fuel (top :: { bottom with items } :: others) learned
      else do
        let (items, learned) ← mergeRuns lt learned middle.items top.items
        mergeAll lt fuel ({ middle with items } :: bottom :: others) learned
    | [] => do
      let (items, learned) ← mergeRuns lt learned middle.items top.items
      mergeAll lt fuel [{ middle with items }] learned

/-- Sorts items, or gives the failure of the first comparison that fails. -/
def sort (lt : α → α → Except ε Bool) (items : List α) : Except ε (List α) := do
  let whole := items.length
  let least := shortRun (whole + 1) whole false
  let (waiting, learned) ← collect lt whole least (whole + 1) 0 items [] winsToGallop
  mergeAll lt (whole + 1) waiting learned

end Rehearsal.Sort
