/-!
# White space

The characters with the property of that name, and texts without them at either end. In some texts
the four control characters that separate records are left out as well.
-/

namespace Rehearsal.Text

def blanks : List (Nat × Nat) :=
  [(0x9, 0xD), (0x20, 0x20), (0x85, 0x85), (0xA0, 0xA0), (0x1680, 0x1680), (0x2000, 0x200A),
   (0x2028, 0x2029), (0x202F, 0x202F), (0x205F, 0x205F), (0x3000, 0x3000)]

def isBlank (c : Char) : Bool :=
  blanks.any fun (first, last) => decide (first ≤ c.toNat) && decide (c.toNat ≤ last)

/-- Blanks and the separators of files, groups, records and units. -/
def isSpace (c : Char) : Bool := isBlank c || decide (0x1C ≤ c.toNat) && decide (c.toNat ≤ 0x1F)

/-- A text without some characters at either end. -/
def trimBy (left : Char → Bool) (cs : List Char) : List Char :=
  ((cs.dropWhile left).reverse.dropWhile left).reverse

/-- The characters between the first and the last one that is not blank. -/
def trim : List Char → List Char := trimBy isBlank

/-- The characters between the first and the last one that is no space. -/
def strip : List Char → List Char := trimBy isSpace

/-- Every line end as one newline. -/
def unifyLineEnds : List Char → List Char
  | [] => []
  | '\r' :: '\n' :: rest => '\n' :: unifyLineEnds rest
  | '\r' :: rest => '\n' :: unifyLineEnds rest
  | c :: rest => c :: unifyLineEnds rest

end Rehearsal.Text
