/-!
# Decimal digits

Reading digits, and the limit up to which integers are read from a text or written as one.
-/

namespace Rehearsal.Number

def isDigit (c : Char) : Bool := decide (48 ≤ c.toNat) && decide (c.toNat ≤ 57)

def digitValue (c : Char) : Nat := c.toNat - 48

def ofDigits (cs : List Char) : Nat := cs.foldl (fun n c => n * 10 + digitValue c) 0

/-- The most digits of an integer that is read or written. -/
def digitLimit : Nat := 4300

/-- The number of digits that come in groups with an underscore between any two of them, if there
are not too many. -/
def ofGroups? (cs : List Char) : Option Nat :=
  let digits := cs.filter (· ≠ '_')
  let separated := (cs.zip (cs.drop 1)).all fun (a, b) => a ≠ '_' || b ≠ '_'
  if digits.isEmpty || cs.head? = some '_' || cs.getLast? = some '_' || !separated then none
  else if digits.all isDigit && decide (digits.length ≤ digitLimit) then some (ofDigits digits)
  else none

/-- Whether an integer has too many digits to be written. -/
def exceedsDigitLimit (n : Int) : Bool := decide (Nat.pow 10 digitLimit ≤ n.natAbs)

end Rehearsal.Number
