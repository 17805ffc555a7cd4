import Rehearsal.Number.Double

/-!
# The shortest decimal of a double

Of all decimals that round to a given double, the one with the fewest digits is chosen, and of
those the nearest to the exact value. The reals that round to `m * 2 ^ q` are an interval
around it whose ends belong to it when `m` is even. If a decimal grid has a point in the
interval, one of the two grid points beside the value is in it, so only those are tried.
-/

namespace Rehearsal.Number

/-- The number `digits * 10 ^ exponent`. -/
structure Decimal where
  digits : Nat
  exponent : Int
deriving DecidableEq, Repr

def digitCount (n : Nat) : Nat := (toString n).length

/-- The exponent `e` with `10 ^ e ≤ num / den < 10 ^ (e + 1)`, for a positive quotient. -/
def leadingPlace (num den : Nat) : Int :=
  let estimate : Int := (digitCount num : Int) - digitCount den
  let reaches : Bool :=
    match estimate with
    | .ofNat e => decide (den * Nat.pow 10 e ≤ num)
    | .negSucc e => decide (den ≤ num * Nat.pow 10 (e + 1))
  if reaches then estimate else estimate - 1

/-- The reals that round to `mantissa * 2 ^ exponent`, in quarters of the last binary place. -/
structure Interval where
  low : Nat
  value : Nat
  high : Nat
  closed : Bool
  unit : Nat × Nat

/-- The ends lie half a place away, but a quarter below a power of two, where the places get
finer. -/
def Interval.around (m : Nat) (q : Int) : Interval :=
  let below := if m = fractionLimit && smallestExponent < q then 1 else 2
  { low := 4 * m - below
    value := 4 * m
    high := 4 * m + 2
    closed := m % 2 == 0
    unit := match q with
      | .ofNat e => (Nat.pow 2 e, 4)
      | .negSucc e => (1, 4 * Nat.pow 2 (e + 1)) }

/-- The grid `10 ^ place` as numerator and denominator. -/
def gridUnit : Int → Nat × Nat
  | .ofNat e => (Nat.pow 10 e, 1)
  | .negSucc e => (1, Nat.pow 10 (e + 1))

namespace Interval

/-- Both sides of a comparison between `points * 10 ^ place` and `x` units. -/
def sides (i : Interval) (points : Nat) (place : Int) (x : Nat) : Nat × Nat :=
  let (gridNum, gridDen) := gridUnit place
  (points * gridNum * i.unit.2, x * i.unit.1 * gridDen)

def contains (i : Interval) (points : Nat) (place : Int) : Bool :=
  let (a, low) := i.sides points place i.low
  let (b, high) := i.sides points place i.high
  if i.closed then decide (low ≤ a) && decide (b ≤ high)
  else decide (low < a) && decide (b < high)

/-- The last grid point not above the value. -/
def floor (i : Interval) (place : Int) : Nat :=
  let (unit, value) := i.sides 1 place i.value
  value / unit

/-- Of the two grid points beside the value the nearer one in the interval; of two equally
near ones the even one. -/
def nearestOn (i : Interval) (place : Int) : Option Nat :=
  let below := i.floor place
  let (middle, twice) := i.sides (2 * below + 1) place (2 * i.value)
  match i.contains below place, i.contains (below + 1) place with
  | true, true =>
    if twice < middle then some below
    else if middle < twice then some (below + 1)
    else some (below + below % 2)
  | true, false => some below
  | false, true => some (below + 1)
  | false, false => none

end Interval

/-- Trailing zeros move into the exponent. -/
def Decimal.trim (fuel : Nat) (d : Decimal) : Decimal :=
  match fuel with
  | 0 => d
  | fuel + 1 => if d.digits % 10 = 0 then trim fuel ⟨d.digits / 10, d.exponent + 1⟩ else d

/-- Tries grids of `17 - fuel + 1`, … digits; seventeen digits always suffice. -/
def shortestFrom (i : Interval) (leading : Int) : Nat → Nat → Decimal
  | 0, _ => ⟨0, 0⟩
  | fuel + 1, count =>
    let place := leading - count + 1
    match i.nearestOn place with
    | some digits => Decimal.trim 20 ⟨digits, place⟩
    | none => shortestFrom i leading fuel (count + 1)

/-- The shortest decimal that rounds to `m * 2 ^ q`. -/
def shortest (m : Nat) (q : Int) : Decimal :=
  if m = 0 then ⟨0, 0⟩ else
  let (num, den) := Dyadic.ratio ⟨false, m, q⟩
  shortestFrom (Interval.around m q) (leadingPlace num den) 17 1

end Rehearsal.Number
