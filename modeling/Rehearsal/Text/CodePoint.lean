/-!
# Code points

A text is a sequence of code points. All of them are characters but the surrogates, which stand in
pairs for the characters past the sixteen-bit range; a document may hold one without its partner.
-/

namespace Rehearsal.Text

/-- Whether a number lies in one of some ranges, which are given by their first and last number. -/
def inRanges (ranges : List (Nat × Nat)) (n : Nat) : Bool :=
  ranges.any fun (first, last) => decide (first ≤ n) && decide (n ≤ last)

inductive CodePoint where
  | char (c : Char)
  | surrogate (n : Nat)
deriving DecidableEq, Repr

namespace CodePoint

def number : CodePoint → Nat
  | char c => c.toNat
  | surrogate n => n

def ofNumber (n : Nat) : CodePoint :=
  if n.isValidChar then char (Char.ofNat n) else surrogate n

/-- The character, or the one that stands for what has none. -/
def shown : CodePoint → Char
  | char c => c
  | surrogate _ => Char.ofNat 0xFFFD

def char? : CodePoint → Option Char
  | char c => some c
  | surrogate _ => none

def isSurrogate : CodePoint → Bool
  | char _ => false
  | surrogate _ => true

end CodePoint

end Rehearsal.Text
