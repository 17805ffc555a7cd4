import Rehearsal.Number.Round

/-!
# Doubles as exact numbers

A finite double is `m * 2 ^ q`. Decoding reads the word, and the nearest double of a quotient
is found in natural arithmetic, so neither direction relies on floating-point operations.
-/

namespace Rehearsal.Number

/-- The magnitude `mantissa * 2 ^ exponent` with a sign of its own, so that zero keeps one. -/
structure Dyadic where
  negative : Bool
  mantissa : Nat
  exponent : Int
deriving DecidableEq, Repr

/-- What a 64-bit word stands for. -/
inductive Reading where
  | nan
  | infinite (negative : Bool)
  | finite (value : Dyadic)
deriving DecidableEq, Repr

def fractionLimit : Nat := Nat.pow 2 52

def exponentLimit : Nat := Nat.pow 2 11

def smallestExponent : Int := -1074

def readWord (word : Nat) : Reading :=
  let fraction := word % fractionLimit
  let biased := word / fractionLimit % exponentLimit
  let negative := decide (Nat.pow 2 63 ≤ word)
  if biased = exponentLimit - 1 then
    if fraction = 0 then .infinite negative else .nan
  else if biased = 0 then .finite ⟨negative, fraction, smallestExponent⟩
  else .finite ⟨negative, fractionLimit + fraction, (biased : Int) - 1075⟩

def read (x : Float) : Reading := readWord x.toBits.toNat

namespace Dyadic

/-- Numerator and denominator of the magnitude. -/
def ratio (d : Dyadic) : Nat × Nat :=
  match d.exponent with
  | .ofNat e => (d.mantissa * Nat.pow 2 e, 1)
  | .negSucc e => (d.mantissa, Nat.pow 2 (e + 1))

/-- The signed numerator over the same denominator. -/
def signed (d : Dyadic) : Int × Nat :=
  let (num, den) := d.ratio
  (if d.negative then -(num : Int) else num, den)

def isIntegral (d : Dyadic) : Bool :=
  let (num, den) := d.ratio
  num % den == 0

/-- The integer part, towards zero. -/
def truncate (d : Dyadic) : Int :=
  let (num, den) := d.ratio
  let part : Int := (num / den : Nat)
  if d.negative then -part else part

end Dyadic

/-- The word of the double nearest to `num / den` without its sign: a half goes to the even
mantissa, and what lies past the largest finite double is infinite. -/
def nearestWord (num den : Nat) : Nat :=
  if num = 0 then 0 else
  let estimate : Int := (num.log2 : Int) - den.log2
  let scaled (q : Int) : Nat :=
    match q with
    | .ofNat e => roundHalfEven num (den * Nat.pow 2 e)
    | .negSucc e => roundHalfEven (num * Nat.pow 2 (e + 1)) den
  let reaches : Bool :=
    match estimate with
    | .ofNat e => decide (den * Nat.pow 2 e ≤ num)
    | .negSucc e => decide (den ≤ num * Nat.pow 2 (e + 1))
  let leading := if reaches then estimate else estimate - 1
  let q := max (leading - 52) smallestExponent
  min ((q - smallestExponent).toNat * fractionLimit + scaled q)
    ((exponentLimit - 1) * fractionLimit)

/-- The double nearest to `± num / den`. -/
def nearest (negative : Bool) (num den : Nat) : Float :=
  Float.ofBits (UInt64.ofNat (nearestWord num den + if negative then Nat.pow 2 63 else 0))

/-- The double nearest to `± digits * 10 ^ exponent`. -/
def ofDecimal (negative : Bool) (digits : Nat) (exponent : Int) : Float :=
  let places : Int := (toString digits).length
  if digits = 0 || places + exponent < -330 then nearest negative 0 1
  else if 320 < places + exponent then nearest negative (Nat.pow 2 1024) 1
  else match exponent with
    | .ofNat e => nearest negative (digits * Nat.pow 10 e) 1
    | .negSucc e => nearest negative digits (Nat.pow 10 (e + 1))

/-- An integer as a double, unless it lies past the largest one. -/
def ofInt? (n : Int) : Option Float :=
  let x := nearest (decide (n < 0)) n.natAbs 1
  if x.isFinite then some x else none

end Rehearsal.Number
