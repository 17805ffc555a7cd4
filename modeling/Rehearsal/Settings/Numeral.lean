import Rehearsal.Number.Digits
import Rehearsal.Number.Double
import Rehearsal.Text.Blank

/-!
# Numerals in settings

Settings accept numbers as texts. An integer may have a sign, single underscores between digits
and a fraction of zeros, with blanks around it. A double is a decimal with an optional exponent, or
one of the words for the exceptional values in any case.
-/

namespace Rehearsal.Settings

open Number (isDigit ofDigits)

def allDigits (cs : List Char) : Bool := !cs.isEmpty && cs.all isDigit

def isPositiveDigit (c : Char) : Bool := isDigit c && c ≠ '0'

/-- Leading zeros, with underscores among them, are left out up to the first other digit, to a
minus, or to the last character before a point or the end. -/
def dropZeros : List Char → Option (List Char)
  | '0' :: rest =>
    let zeros := '0' :: rest.takeWhile fun c => c = '0' || c = '_'
    let behind := rest.dropWhile fun c => c = '0' || c = '_'
    match behind with
    | [] => some [zeros.getLastD '0']
    | '.' :: _ => some (zeros.getLastD '0' :: behind)
    | c :: _ => if isPositiveDigit c || c = '-' then some behind else none
  | c :: rest => if isPositiveDigit c || c = '-' then some (c :: rest) else none
  | [] => none

/-- A fraction of zeros is left out. -/
def dropFraction (cs : List Char) : List Char :=
  let whole := cs.takeWhile (· ≠ '.')
  let fraction := cs.drop (whole.length + 1)
  if !fraction.isEmpty && fraction.all (· = '0') then whole else cs

def hasPairOfUnderscores : List Char → Bool
  | '_' :: '_' :: _ => true
  | _ :: rest => hasPairOfUnderscores rest
  | [] => false

/-- Single underscores within the text are left out. -/
def dropUnderscores (cs : List Char) : Option (List Char) :=
  if cs.head? = some '_' || cs.getLast? = some '_' || hasPairOfUnderscores cs then none
  else some (cs.filter (· ≠ '_'))

/-- What a text stands for where an integer is wanted. -/
inductive IntReading where
  | value (n : Int)
  | malformed
  | tooLong
deriving DecidableEq, Repr

/-- Digits without a superfluous zero, with a minus in front if negative. -/
def plainInt? (cs : List Char) : Option Int :=
  let (negative, digits) := match cs with
    | '-' :: rest => (true, rest)
    | _ => (false, cs)
  if allDigits digits && (digits.length == 1 || digits.head? != some '0') &&
      decide (digits.length ≤ Number.digitLimit) then
    let n : Int := ofDigits digits
    some (if negative then -n else n)
  else none

/-- The digits behind a minus, which may not be followed by another one. -/
def unsigned? (cs : List Char) : Option (List Char) := do
  let digits ← dropZeros cs
  if digits.head? = some '-' then none else some ('-' :: digits)

/-- The characters of an integer without blanks, superfluous zeros, fraction and underscores. -/
def cleaned? (cs : List Char) : Option (List Char) := do
  let stripped ← match Text.trim cs with
    | '+' :: '-' :: _ => none
    | '+' :: rest => dropZeros rest
    | '-' :: rest => unsigned? rest
    | rest => dropZeros rest
  dropUnderscores (dropFraction stripped)

/-- Whether a text starts with a number of too many digits, the first of which is no zero. -/
def startsTooLong (cs : List Char) : Bool :=
  let digits := (if cs.head? = some '-' then cs.drop 1 else cs).takeWhile isDigit
  digits.head? != some '0' && decide (Number.digitLimit < digits.length)

/-- The integer that a text stands for. -/
def readInteger (s : String) : IntReading :=
  if startsTooLong s.toList then .tooLong
  else match (cleaned? s.toList).bind plainInt? with
    | some n => .value n
    | none => .malformed

/-- An exponent behind its mark. -/
def exponent? (cs : List Char) : Option Int :=
  match cs with
  | '-' :: digits => if allDigits digits then some (-(ofDigits digits : Int)) else none
  | '+' :: digits => if allDigits digits then some (ofDigits digits) else none
  | digits => if allDigits digits then some (ofDigits digits) else none

/-- A decimal without a sign. -/
def decimal? (negative : Bool) (cs : List Char) : Option Float := do
  let mantissa := cs.takeWhile fun c => c ≠ 'e' && c ≠ 'E'
  let power ← match cs.drop mantissa.length with
    | [] => some 0
    | _ :: digits => exponent? digits
  let whole := mantissa.takeWhile isDigit
  let fraction ← match mantissa.drop whole.length with
    | [] => some []
    | '.' :: digits => if digits.all isDigit then some digits else none
    | _ => none
  if whole.isEmpty && fraction.isEmpty then none
  else
    return Number.ofDecimal negative (ofDigits (whole ++ fraction)) (power - fraction.length)

def asciiLower (c : Char) : Char :=
  if 65 ≤ c.toNat ∧ c.toNat ≤ 90 then Char.ofNat (c.toNat + 32) else c

def lowerWord (cs : List Char) : String := String.ofList (cs.map asciiLower)

/-- The double that the characters stand for. -/
def floatOf? (cs : List Char) : Option Float :=
  let (negative, body) := match cs with
    | '-' :: rest => (true, rest)
    | '+' :: rest => (false, rest)
    | _ => (false, cs)
  let word := lowerWord body
  if word = "inf" || word = "infinity" then some (Number.nearest negative (Nat.pow 2 1024) 1)
  else if word = "nan" then some (Float.ofBits 0x7FF8000000000000)
  else decimal? negative body

/-- The double that a text stands for, with blanks around it or with underscores in it. -/
def float? (s : String) : Option Float :=
  (floatOf? (Text.trim s.toList)).or ((dropUnderscores s.toList).bind floatOf?)

/-- The truth value that a text stands for. -/
def bool? (s : String) : Option Bool :=
  let word := lowerWord s.toList
  if ["1", "t", "true", "y", "yes", "on"].contains word then some true
  else if ["0", "f", "false", "n", "no", "off"].contains word then some false
  else none

end Rehearsal.Settings
