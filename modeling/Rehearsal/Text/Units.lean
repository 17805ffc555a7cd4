import Rehearsal.Text.Utf8

/-!
# Texts in units of two and four bytes

A surrogate without a partner is let through, so the only failures are bytes that make no whole
unit and, in units of four bytes, numbers past the last code point.
-/

namespace Rehearsal.Text

inductive Endian where
  | big
  | little
deriving DecidableEq, Repr

def Endian.suffix : Endian → String
  | big => "be"
  | little => "le"

/-- The number that the bytes of one unit stand for. -/
def Endian.number (e : Endian) (bytes : Bytes) : Nat :=
  let ordered := match e with
    | big => bytes
    | little => bytes.reverse
  ordered.foldl (fun n b => n * 256 + b.toNat) 0

def isHighSurrogate (n : Nat) : Bool := n / 1024 == 0x36

def isLowSurrogate (n : Nat) : Bool := n / 1024 == 0x37

/-- The code point of a pair of surrogates. -/
def joinSurrogates (high low : Nat) : Nat := 0x10000 + high % 1024 * 1024 + low % 1024

/-- Joins pairs of surrogates. -/
def ofUnits16 : List Nat → List CodePoint
  | [] => []
  | [unit] => [.ofNumber unit]
  | unit :: next :: rest =>
    if isHighSurrogate unit && isLowSurrogate next then
      .ofNumber (joinSurrogates unit next) :: ofUnits16 rest
    else .ofNumber unit :: ofUnits16 (next :: rest)

/-- The units of two bytes; the first byte has position `position`. -/
def units16 (e : Endian) (position : Nat) : Bytes → Except DecodeFailure (List Nat)
  | [] => .ok []
  | [b] => .error ⟨"utf-16-" ++ e.suffix, b, position, position, .truncated⟩
  | a :: b :: rest => do
    let units ← units16 e (position + 2) rest
    return e.number [a, b] :: units

def decode16 (e : Endian) (position : Nat) (bytes : Bytes) :
    Except DecodeFailure (List CodePoint) :=
  (units16 e position bytes).map ofUnits16

/-- The code points of units of four bytes; the first byte has position `position`. -/
def decode32 (e : Endian) (position : Nat) : Bytes → Except DecodeFailure (List CodePoint)
  | [] => .ok []
  | a :: b :: c :: d :: rest => do
    let n := e.number [a, b, c, d]
    if n < 0x110000 then
      let points ← decode32 e (position + 4) rest
      return .ofNumber n :: points
    else .error ⟨"utf-32-" ++ e.suffix, a, position, position + 3, .outOfRange⟩
  | b :: rest =>
    .error ⟨"utf-32-" ++ e.suffix, b, position, position + rest.length, .truncated⟩

end Rehearsal.Text
