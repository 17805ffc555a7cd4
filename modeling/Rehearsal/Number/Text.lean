import Rehearsal.Number.Shortest

/-!
# The text of a double

Layout decisions are one record; digits come from `Number.shortest`.
-/

namespace Rehearsal.Number

/-- Where positional notation is used and how an exponent is written. -/
structure Layout where
  /-- The least position of the point, counted from the first digit, written positionally. -/
  firstPoint : Int
  /-- The greatest such position. -/
  lastPoint : Int
  /-- The least number of digits of an exponent. -/
  exponentDigits : Nat
  /-- What stands in front of an exponent that is not negative. -/
  plus : String
  nan : String
  infinity : String

/-- Positional from `0.0001` up to sixteen digits before the point; two digits of exponent. -/
def plainLayout : Layout := ⟨-3, 16, 2, "+", "nan", "inf"⟩

/-- The layout of a canonical text, which spells the exceptional values out. -/
def canonicalLayout : Layout := { plainLayout with nan := "NaN", infinity := "Infinity" }

def zeros (n : Nat) : String := String.ofList (List.replicate n '0')

def padLeft (width : Nat) (s : String) : String := zeros (width - s.length) ++ s

namespace Layout

/-- The digits with a point after the first `point` of them, which may lie outside. -/
def positional (digits : String) (point : Int) : String :=
  let count : Int := digits.length
  if point ≤ 0 then "0." ++ zeros (-point).toNat ++ digits
  else if count ≤ point then digits ++ zeros (point - count).toNat ++ ".0"
  else (digits.take point.toNat).toString ++ "." ++ (digits.drop point.toNat).toString

def scientific (layout : Layout) (digits : String) (exponent : Int) : String :=
  let fraction := (digits.drop 1).toString
  let sign := if exponent < 0 then "-" else layout.plus
  (digits.take 1).toString ++ (if fraction.isEmpty then "" else "." ++ fraction) ++ "e" ++ sign ++
    padLeft layout.exponentDigits (toString exponent.natAbs)

def magnitude (layout : Layout) (d : Decimal) : String :=
  let digits := toString d.digits
  let point : Int := digits.length + d.exponent
  if d.digits = 0 then "0.0"
  else if layout.firstPoint ≤ point ∧ point ≤ layout.lastPoint then positional digits point
  else layout.scientific digits (point - 1)

def write (layout : Layout) (x : Float) : String :=
  match Number.read x with
  | .nan => layout.nan
  | .infinite negative => (if negative then "-" else "") ++ layout.infinity
  | .finite d =>
    (if d.negative then "-" else "") ++ layout.magnitude (shortest d.mantissa d.exponent)

end Layout

/-- The text of a double: the fewest digits that read back. -/
def text (x : Float) : String := plainLayout.write x

end Rehearsal.Number
