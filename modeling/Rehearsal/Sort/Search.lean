/-!
# Places in sorted items

Where an item belongs among sorted ones is found by a test that tells which of them are passed. The
test may fail. A search by halving needs two bounds; a search from a hint finds them itself, by
steps that grow.
-/

namespace Rehearsal.Sort

variable {α ε : Type}

/-- The place behind the last item that is passed, between two bounds, found by halving. -/
def bisect (passes : α → Except ε Bool) (items : Array α) : Nat → Nat → Nat → Except ε Nat
  | 0, low, _ => .ok low
  | fuel + 1, low, high =>
    if high ≤ low then .ok low
    else
      let middle := low + (high - low) / 2
      match items[middle]? with
      | none => .ok low
      | some x => do
        if ← passes x then bisect passes items fuel (middle + 1) high
        else bisect passes items fuel low middle

/-- The last distance at which the test holds and the first one at which it need not, where each
distance is one more than twice the one before, up to a bound. -/
def stride (holds : Nat → Except ε Bool) (bound : Nat) : Nat → Nat → Nat → Except ε (Nat × Nat)
  | 0, last, next => .ok (last, next)
  | fuel + 1, last, next =>
    if next < bound then do
      if ← holds next then stride holds bound fuel next (2 * next + 1) else return (last, next)
    else .ok (last, bound)

/-- The place behind the last item that is passed, searched for from a hint. -/
def gallop (passes : α → Except ε Bool) (items : Array α) (hint : Nat) : Except ε Nat := do
  let passed (i : Nat) : Except ε Bool :=
    match items[i]? with
    | some x => passes x
    | none => .ok false
  let fuel := items.size + 1
  if ← passed hint then
    let (last, next) ← stride (fun d => passed (hint + d)) (items.size - hint) fuel 0 1
    bisect passes items fuel (hint + last + 1) (hint + next)
  else
    let missed (d : Nat) : Except ε Bool := do return !(← passed (hint - d))
    let (last, next) ← stride missed (hint + 1) fuel 0 1
    bisect passes items fuel (hint + 1 - next) (hint - last)

end Rehearsal.Sort
