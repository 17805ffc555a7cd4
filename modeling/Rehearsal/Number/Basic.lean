import Rehearsal.Number.Text

/-!
# Numbers

Truth values, integers of any size and doubles. Comparison is exact across the three; a sum or
difference with a double is computed in doubles, and an integer past their range has none.
-/

namespace Rehearsal

inductive Number where
  | bool (b : Bool)
  | int (n : Int)
  | float (x : Float)

namespace Number

def notANumber : Float := Float.ofBits 0x7FF8000000000000

/-- A number on the extended line: below, on or above the finite ones. -/
structure Position where
  rank : Int
  num : Int
  den : Nat

def ofBool (b : Bool) : Int := if b then 1 else 0

def isFloat : Number → Bool
  | float _ => true
  | _ => false

/-- The exact position; none for what is not a number. -/
def position? : Number → Option Position
  | bool b => some ⟨0, ofBool b, 1⟩
  | int n => some ⟨0, n, 1⟩
  | float x =>
    match read x with
    | .nan => none
    | .infinite negative => some ⟨if negative then -1 else 1, 0, 1⟩
    | .finite d => some ⟨0, d.signed.1, d.signed.2⟩

def Position.compare (a b : Position) : Ordering :=
  if a.rank = b.rank then Ord.compare (a.num * b.den) (b.num * a.den) else Ord.compare a.rank b.rank

/-- Exact comparison; none when one side is not a number. -/
def compare (a b : Number) : Option Ordering := do
  return (← a.position?).compare (← b.position?)

def same (a b : Number) : Bool := a.compare b == some .eq

def less (a b : Number) : Bool := a.compare b == some .lt

/-- The nearest double, unless an integer lies past the range. -/
def toFloat? : Number → Option Float
  | bool b => ofInt? (ofBool b)
  | int n => ofInt? n
  | float x => some x

/-- Applies the operation of the doubles if one operand is a double, else that of the integers. -/
def combine (onInt : Int → Int → Int) (onFloat : Float → Float → Float) :
    Number → Number → Option Number
  | int a, int b => some (int (onInt a b))
  | int a, bool b => some (int (onInt a (ofBool b)))
  | bool a, int b => some (int (onInt (ofBool a) b))
  | bool a, bool b => some (int (onInt (ofBool a) (ofBool b)))
  | a, b => do return float (onFloat (← a.toFloat?) (← b.toFloat?))

def add? : Number → Number → Option Number := combine (· + ·) (· + ·)

def sub? : Number → Number → Option Number := combine (· - ·) (· - ·)

def mul? : Number → Number → Option Number := combine (· * ·) (· * ·)

/-- A zero with the sign of a double. -/
def signedZero (negative : Bool) : Float := nearest negative 0 1

/-- The remainder with the sign of the divisor, which is not zero. It is exact up to the last step,
which moves a remainder of the other sign by the divisor. -/
def floatRemainder (x y : Float) : Float :=
  match read x, read y with
  | .finite a, .finite b =>
    let (p, q) := a.ratio
    let (r, s) := b.ratio
    let left := p * s % (r * q)
    if left = 0 then signedZero b.negative
    else
      let part := nearest a.negative left (q * s)
      if a.negative == b.negative then part else part + y
  | .finite a, .infinite negative =>
    if a.mantissa = 0 then signedZero negative else if a.negative == negative then x else y
  | _, _ => notANumber

def isZero (a : Number) : Bool := a.same (int 0)

/-- The remainder by a divisor that is not zero. -/
def rem? : Number → Number → Option Number := combine Int.fmod floatRemainder

/-- The quotient by a divisor that is not zero, as a double: of integers the nearest one, unless it
lies past the range. -/
def div? : Number → Number → Option Float
  | float x, b => do return x / (← b.toFloat?)
  | a, float y => do return (← a.toFloat?) / y
  | int a, b => quotient? a (truncated b)
  | bool a, b => quotient? (ofBool a) (truncated b)
where
  truncated : Number → Int
    | bool b => ofBool b
    | int n => n
    | float _ => 0
  quotient? (a b : Int) : Option Float :=
    let x := nearest (decide (a < 0) != decide (b < 0)) a.natAbs b.natAbs
    if x.isFinite then some x else none

def abs : Number → Number
  | bool b => int (ofBool b)
  | int n => int n.natAbs
  | float x => float x.abs

def literal : Number → String
  | bool true => "True"
  | bool false => "False"
  | int n => toString n
  | float x => text x

end Number

end Rehearsal
