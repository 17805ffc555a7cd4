import Rehearsal.Error
import Rehearsal.Value.Equality

/-!
# The order of values

Numbers, texts, byte strings, lists, tuples, durations and times are ordered within their kind, sets
by inclusion. Values of other kinds have no order, and asking for it is an error.
-/

namespace Rehearsal

inductive Relation where
  | less
  | lessEqual
  | greater
  | greaterEqual
deriving DecidableEq, Repr

namespace Relation

def symbol : Relation → String
  | less => "<"
  | lessEqual => "<="
  | greater => ">"
  | greaterEqual => ">="

def holds (r : Relation) (o : Ordering) : Bool :=
  match r with
  | less => o == .lt
  | lessEqual => o != .gt
  | greater => o == .gt
  | greaterEqual => o != .lt

/-- Inclusion of sets of which the first has `m` and the second `n` members. -/
def includes (r : Relation) (m n : Nat) (within around : Bool) : Bool :=
  match r with
  | less => decide (m < n) && within
  | lessEqual => within
  | greater => decide (n < m) && around
  | greaterEqual => around

end Relation

namespace Wording

def compare (a b : Wording) : Ordering :=
  if a.same b then .eq else if a.less b then .lt else .gt

end Wording

namespace Value

def compareBytes (a b : Text.Bytes) : Ordering :=
  if a = b then .eq else if a < b then .lt else .gt

mutual

def compare (r : Relation) (x y : Value) : Outcome Bool :=
  match x, y with
  | list xs, list ys => compareAll r xs ys
  | tuple xs, tuple ys => compareAll r xs ys
  | text a, text b => .ok (r.holds (a.compare b))
  | bytes a, bytes b => .ok (r.holds (compareBytes a b))
  | duration a, duration b => .ok (r.holds (Ord.compare a.micros b.micros))
  | instant a, instant b =>
    match a.universal?, b.universal? with
    | some m, some n => .ok (r.holds (Ord.compare m n))
    | Option.none, Option.none => .ok (r.holds (Ord.compare a.wall b.wall))
    | _, _ => .error (.mismatch .zones)
  | set xs, set ys | set xs, frozenset ys | frozenset xs, set ys | frozenset xs, frozenset ys =>
    .ok (r.includes xs.length ys.length (allWithin xs ys) (allWithin ys xs))
  | x, y =>
    match x.number?, y.number? with
    | some a, some b => .ok ((a.compare b).any r.holds)
    | _, _ => .error (.mismatch (.ordering r.symbol x.kindName y.kindName))

/-- The first items that are not alike decide, else the lengths. -/
def compareAll (r : Relation) : List Value → List Value → Outcome Bool
  | [], ys => .ok (r.holds (if ys.isEmpty then .eq else .lt))
  | _ :: _, [] => .ok (r.holds .gt)
  | x :: xs, y :: ys => if alike x y then compareAll r xs ys else compare r x y

end

def less (x y : Value) : Outcome Bool := compare .less x y

end Value

end Rehearsal
