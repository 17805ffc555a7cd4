import Rehearsal.Text.CodePoint
import Rehearsal.Text.Unprintable

/-!
# Literals of texts and byte strings

A literal is enclosed in single quotes, or in double quotes when it holds a single quote and no
double one. Backslash, the enclosing quote and everything without a printed form is escaped.
-/

namespace Rehearsal.Text

def hexDigit (n : Nat) : Char :=
  if n < 10 then Char.ofNat (48 + n) else Char.ofNat (87 + n)

/-- The last `width` hexadecimal digits. -/
def hexDigits : Nat → Nat → List Char
  | 0, _ => []
  | width + 1, n => hexDigits width (n / 16) ++ [hexDigit (n % 16)]

/-- A byte string as its hexadecimal digits. -/
def hex (bytes : List UInt8) : String :=
  String.ofList (bytes.flatMap fun b => hexDigits 2 b.toNat)

def quoteFor (holdsSingle holdsDouble : Bool) : Char :=
  if holdsSingle && !holdsDouble then '"' else '\''

/-- Escapes that do not depend on what is printable. -/
def escapeNamed (quote c : Char) : Option (List Char) :=
  if c = '\\' then some ['\\', '\\']
  else if c = quote then some ['\\', quote]
  else if c = '\n' then some ['\\', 'n']
  else if c = '\r' then some ['\\', 'r']
  else if c = '\t' then some ['\\', 't']
  else none

/-- An escape by number, as short as the code point allows. -/
def escapeNumber (n : Nat) : List Char :=
  if n < 0x100 then '\\' :: 'x' :: hexDigits 2 n
  else if n < 0x10000 then '\\' :: 'u' :: hexDigits 4 n
  else '\\' :: 'U' :: hexDigits 8 n

def escapeChar (quote c : Char) : List Char :=
  (escapeNamed quote c).getD (if isPrintable c then [c] else escapeNumber c.toNat)

def escapeByte (quote : Char) (b : UInt8) : List Char :=
  let c := Char.ofNat b.toNat
  (escapeNamed quote c).getD
    (if 32 ≤ b.toNat ∧ b.toNat < 127 then [c] else escapeNumber b.toNat)

/-- A surrogate is escaped by its number. -/
def escapePoint (quote : Char) : CodePoint → List Char
  | .char c => escapeChar quote c
  | .surrogate n => escapeNumber n

/-- The literal of a text. -/
def literal (s : String) : String :=
  let quote := quoteFor (s.toList.contains '\'') (s.toList.contains '"')
  String.ofList (quote :: s.toList.flatMap (escapeChar quote) ++ [quote])

/-- The literal of a sequence of code points. -/
def literalPoints (points : List CodePoint) : String :=
  let quote := quoteFor (points.contains (.char '\'')) (points.contains (.char '"'))
  String.ofList (quote :: points.flatMap (escapePoint quote) ++ [quote])

/-- The literal of a byte string. -/
def literalBytes (bytes : List UInt8) : String :=
  let quote := quoteFor (bytes.contains 39) (bytes.contains 34)
  String.ofList ('b' :: quote :: bytes.flatMap (escapeByte quote) ++ [quote])

end Rehearsal.Text
