import Rehearsal.Sort.Adaptive
import Rehearsal.Value.Order

/-!
# Strict equality and unique items

Where schemas compare values, truth values differ from numbers, and sequences are equal whatever
their kind. Items are unique if no two neighbours are equal once they are sorted; items without an
order are compared with each other. Where the order has gaps, equal items need not become
neighbours.
-/

namespace Rehearsal.Schema

mutual

def depth : Value → Nat
  | .list xs | .tuple xs | .set xs | .frozenset xs => depthAll xs + 1
  | .dict es => depthEntries es + 1
  | .settings _ => 2
  | _ => 1

def depthAll : List Value → Nat
  | [] => 0
  | x :: xs => max (depth x) (depthAll xs)

def depthEntries : List (Value × Value) → Nat
  | [] => 0
  | (k, v) :: es => max (max (depth k) (depth v)) (depthEntries es)

end

/-- The items of a list, a tuple or a byte string. -/
def items? : Value → Option (List Value)
  | .list xs | .tuple xs => some xs
  | .bytes bs => some (bs.map fun b => .int b.toNat)
  | _ => none

/-- Strict equality to the depth of `fuel`. -/
def strictlySame : Nat → Value → Value → Bool
  | 0, _, _ => false
  | fuel + 1, x, y =>
    if x.identical y then true
    else match x, y with
    | .text a, .text b => a.same b
    | .text _, _ | _, .text _ => false
    | .dict xs, .dict ys =>
      xs.length == ys.length &&
        xs.all fun (k, v) => (Value.lookup k ys).any (strictlySame fuel v)
    | x, y =>
      match items? x, items? y with
      | some xs, some ys =>
        xs.length == ys.length && (xs.zip ys).all fun (x, y) => strictlySame fuel x y
      | _, _ =>
        match x, y with
        | .bool a, .bool b => a == b
        | .bool _, _ | _, .bool _ => false
        | x, y => x.same y

def equal (x y : Value) : Bool := strictlySame (depth x + 1) x y

/-- The order of items, which truth values have none of. -/
def precedes (x y : Value) : Outcome Bool :=
  match x, y with
  | .bool _, y => .error (.mismatch (.ordering "<" "object" y.kindName))
  | x, .bool _ => .error (.mismatch (.ordering "<" x.kindName "object"))
  | x, y => x.less y

def noEqualNeighbours : List Value → Bool
  | x :: y :: rest => !equal x y && noEqualNeighbours (y :: rest)
  | _ => true

def noEqualPair : List Value → Bool
  | [] => true
  | x :: xs => !xs.any (equal x) && noEqualPair xs

def areUnique (xs : List Value) : Bool :=
  match Sort.sort precedes xs with
  | .ok sorted => noEqualNeighbours sorted
  | .error _ => noEqualPair xs

end Rehearsal.Schema
