import Rehearsal.Json.Basic
import Rehearsal.Number.Digits
import Rehearsal.Number.Double
import Rehearsal.Text.Units

/-!
# Reading JSON documents

Every document is either a plain value or refused at one character, which the failure names
together with what was expected there, or at an integer with too many digits. Besides the
standard grammar the words `NaN`, `Infinity` and `-Infinity` are numbers. Of entries with one
key the last value stays in the first place.
-/

namespace Rehearsal.Json

open Text (CodePoint)

inductive SyntaxReason where
  | expectingValue
  | extraData
  | expectingComma
  | expectingColon
  | expectingName
  | unterminated
  | invalidControl
  | invalidEscape
  | invalidUnicodeEscape
  | byteOrderMark
deriving DecidableEq, Repr

def SyntaxReason.text : SyntaxReason → String
  | expectingValue => "Expecting value"
  | extraData => "Extra data"
  | expectingComma => "Expecting ',' delimiter"
  | expectingColon => "Expecting ':' delimiter"
  | expectingName => "Expecting property name enclosed in double quotes"
  | unterminated => "Unterminated string starting at"
  | invalidControl => "Invalid control character at"
  | invalidEscape => "Invalid \\escape"
  | invalidUnicodeEscape => "Invalid \\uXXXX escape"
  | byteOrderMark => "Unexpected UTF-8 BOM (decode using utf-8-sig)"

/-- What is refused, and where: lines and columns count from one, characters from zero. -/
structure SyntaxFailure where
  reason : SyntaxReason
  line : Nat
  column : Nat
  position : Nat
deriving DecidableEq, Repr

def SyntaxFailure.message (f : SyntaxFailure) : String :=
  f.reason.text ++ ": line " ++ toString f.line ++ " column " ++ toString f.column ++ " (char " ++
    toString f.position ++ ")"

/-- Why a document has no plain value. -/
inductive Failure where
  | malformed (f : SyntaxFailure)
  /-- An integer of more digits than are read. -/
  | tooManyDigits (count : Nat)
deriving DecidableEq, Repr

/-- The failure at a position of a document. -/
def failureAt (document : List CodePoint) (reason : SyntaxReason) (position : Nat) :
    SyntaxFailure :=
  let before := document.take position
  { reason
    line := before.count (.char '\n') + 1
    column := (before.reverse.takeWhile (· ≠ .char '\n')).length + 1
    position }

/-- What is left to read and how much was read. -/
structure Cursor where
  position : Nat
  rest : List CodePoint

namespace Cursor

def skip (count : Nat) (c : Cursor) : Cursor := ⟨c.position + count, c.rest.drop count⟩

def isBlank : CodePoint → Bool
  | .char c => c = ' ' || c = '\t' || c = '\n' || c = '\r'
  | .surrogate _ => false

def skipBlanks (c : Cursor) : Cursor := c.skip (c.rest.takeWhile isBlank).length

/-- The cursor behind a word that stands here. -/
def accept? (word : String) (c : Cursor) : Option Cursor :=
  if (word.toList.map CodePoint.char).isPrefixOf c.rest then some (c.skip word.length) else none

end Cursor

/-- Where reading stops: at a character, given by its position, or at an integer of too many
digits. -/
inductive Refusal where
  | unexpected (reason : SyntaxReason) (position : Nat)
  | tooManyDigits (count : Nat)
deriving DecidableEq, Repr

/-- The digits that stand here. -/
def leadingDigits : List CodePoint → List Char
  | .char c :: rest => if Number.isDigit c then c :: leadingDigits rest else []
  | _ => []

/-- The digits of a fraction, if a point and a digit stand here. -/
def fractionDigits : List CodePoint → List Char
  | .char '.' :: rest => leadingDigits rest
  | _ => []

/-- The exponent and its length, if a mark and digits stand here. -/
def exponentPart : List CodePoint → Option (Int × Nat)
  | .char mark :: rest =>
    if mark = 'e' || mark = 'E' then
      let (negative, signs) := match rest with
        | .char '-' :: _ => (true, 1)
        | .char '+' :: _ => (false, 1)
        | _ => (false, 0)
      let digits := leadingDigits (rest.drop signs)
      if digits.isEmpty then none
      else
        let n : Int := Number.ofDigits digits
        some (if negative then -n else n, 1 + signs + digits.length)
    else none
  | _ => none

/-- A number: an integer unless it has a fraction or an exponent. -/
def readNumber (c : Cursor) : Except Refusal (Json × Cursor) :=
  let (negative, signs) := match c.rest with
    | .char '-' :: _ => (true, 1)
    | _ => (false, 0)
  let body := c.rest.drop signs
  let whole := match body with
    | .char '0' :: _ => ['0']
    | _ => leadingDigits body
  if whole.isEmpty then .error (.unexpected .expectingValue c.position)
  else
    let behind := body.drop whole.length
    let fraction := fractionDigits behind
    let fractionLength := if fraction.isEmpty then 0 else fraction.length + 1
    let exponent := exponentPart (behind.drop fractionLength)
    let exponentLength := (exponent.map (·.2)).getD 0
    let last := c.skip (signs + whole.length + fractionLength + exponentLength)
    if !fraction.isEmpty || exponent.isSome then
      let power := (exponent.map (·.1)).getD 0 - fraction.length
      .ok (.float (Number.ofDecimal negative (Number.ofDigits (whole ++ fraction)) power), last)
    else if Number.digitLimit < whole.length then .error (.tooManyDigits whole.length)
    else
      let n : Int := Number.ofDigits whole
      .ok (.int (if negative then -n else n), last)

def hexValue? : CodePoint → Option Nat
  | .surrogate _ => none
  | .char c =>
    let n := c.toNat
    if 48 ≤ n ∧ n ≤ 57 then some (n - 48)
    else if 97 ≤ n ∧ n ≤ 102 then some (n - 87)
    else if 65 ≤ n ∧ n ≤ 70 then some (n - 55)
    else none

/-- Four hexadecimal digits. -/
def hex4? : List CodePoint → Option Nat
  | a :: b :: c :: d :: _ => do
    return (((← hexValue? a) * 16 + (← hexValue? b)) * 16 + (← hexValue? c)) * 16 + (← hexValue? d)
  | _ => none

def namedEscape? : Char → Option Char
  | '"' => some '"'
  | '\\' => some '\\'
  | '/' => some '/'
  | 'b' => some (Char.ofNat 8)
  | 'f' => some (Char.ofNat 12)
  | 'n' => some '\n'
  | 'r' => some '\r'
  | 't' => some '\t'
  | _ => none

/-- The code point of the second half of a pair, if its escape stands here and the document goes
on behind it. Digits that are none are refused. -/
def secondHalf (c : Cursor) : Except Refusal (Option Nat) :=
  match c.rest with
  | .char '\\' :: .char 'u' :: rest =>
    if (rest.drop 4).isEmpty then .ok none
    else match hex4? rest with
      | some n => .ok (some n)
      | none => .error (.unexpected .invalidUnicodeEscape (c.position + 1))
  | _ => .ok none

/-- An escape by number, from behind its `u`. -/
def readUnicodeEscape (c : Cursor) : Except Refusal (CodePoint × Cursor) :=
  if (c.rest.drop 4).isEmpty then .error (.unexpected .invalidUnicodeEscape (c.position - 1))
  else match hex4? c.rest with
    | none => .error (.unexpected .invalidUnicodeEscape (c.position - 1))
    | some n => do
      let behind := c.skip 4
      if Text.isHighSurrogate n then
        match ← secondHalf behind with
        | some low =>
          if Text.isLowSurrogate low then
            return (CodePoint.ofNumber (Text.joinSurrogates n low), behind.skip 6)
          else return (CodePoint.ofNumber n, behind)
        | none => return (CodePoint.ofNumber n, behind)
      else return (CodePoint.ofNumber n, behind)

/-- The code points of a string from behind its opening quote, which stands at `start`. -/
def readString (start : Nat) : Nat → Cursor → Except Refusal (List CodePoint × Cursor)
  | 0, _ => .error (.unexpected .unterminated start)
  | fuel + 1, c =>
    match c.rest with
    | [] => .error (.unexpected .unterminated start)
    | .char '"' :: _ => .ok ([], c.skip 1)
    | .char '\\' :: [] => .error (.unexpected .unterminated start)
    | .char '\\' :: .char 'u' :: _ => do
      let (point, behind) ← readUnicodeEscape (c.skip 2)
      let (points, last) ← readString start fuel behind
      return (point :: points, last)
    | .char '\\' :: e :: _ =>
      match e.char?.bind namedEscape? with
      | none => .error (.unexpected .invalidEscape c.position)
      | some char => do
        let (points, last) ← readString start fuel (c.skip 2)
        return (.char char :: points, last)
    | point :: _ =>
      if point.number < 32 then .error (.unexpected .invalidControl c.position)
      else do
        let (points, last) ← readString start fuel (c.skip 1)
        return (point :: points, last)

/-- A string whose opening quote stands here. -/
def readText (fuel : Nat) (c : Cursor) : Except Refusal (Wording × Cursor) := do
  let (points, last) ← readString c.position fuel (c.skip 1)
  return (.ofPoints points, last)

/-- The words that are values. -/
def words : List (String × Json) :=
  [("null", .null), ("true", .bool true), ("false", .bool false),
   ("NaN", .float (Float.ofBits 0x7FF8000000000000)),
   ("Infinity", .float (Float.ofBits 0x7FF0000000000000)),
   ("-Infinity", .float (Float.ofBits 0xFFF0000000000000))]

mutual

/-- A value. Every step that consumes nothing is followed by one that does, so twice the length of
the document is fuel enough. -/
def readValue : Nat → Cursor → Except Refusal (Json × Cursor)
  | 0, c => .error (.unexpected .expectingValue c.position)
  | fuel + 1, c =>
    match c.rest with
    | .char '"' :: _ => do
      let (s, last) ← readText fuel c
      return (.text s, last)
    | .char '\x7b' :: _ =>
      let inside := (c.skip 1).skipBlanks
      match inside.rest with
      | .char '\x7d' :: _ => .ok (.object [], inside.skip 1)
      | _ => readEntries fuel [] inside
    | .char '[' :: _ =>
      let inside := (c.skip 1).skipBlanks
      match inside.rest with
      | .char ']' :: _ => .ok (.array [], inside.skip 1)
      | _ => readItems fuel [] inside
    | _ =>
      match words.findSome? fun (word, value) => (c.accept? word).map (value, ·) with
      | some found => .ok found
      | none => readNumber c

/-- Items up to the closing bracket; the last one read comes first. -/
def readItems : Nat → List Json → Cursor → Except Refusal (Json × Cursor)
  | 0, _, c => .error (.unexpected .expectingValue c.position)
  | fuel + 1, done, c => do
    let (item, behind) ← readValue fuel c
    let next := behind.skipBlanks
    match next.rest with
    | .char ']' :: _ => return (.array (item :: done).reverse, next.skip 1)
    | .char ',' :: _ => readItems fuel (item :: done) (next.skip 1).skipBlanks
    | _ => .error (.unexpected .expectingComma next.position)

def readEntries : Nat → List (Wording × Json) → Cursor → Except Refusal (Json × Cursor)
  | 0, _, c => .error (.unexpected .expectingValue c.position)
  | fuel + 1, done, c =>
    match c.rest with
    | .char '"' :: _ => do
      let (name, behind) ← readText fuel c
      let colon := behind.skipBlanks
      match colon.rest with
      | .char ':' :: _ =>
        let (value, after) ← readValue fuel (colon.skip 1).skipBlanks
        let entries := put name value done
        let next := after.skipBlanks
        match next.rest with
        | .char '\x7d' :: _ => return (.object entries, next.skip 1)
        | .char ',' :: _ => readEntries fuel entries (next.skip 1).skipBlanks
        | _ => .error (.unexpected .expectingComma next.position)
      | _ => .error (.unexpected .expectingColon colon.position)
    | _ => .error (.unexpected .expectingName c.position)

end

def readDocument (points : List CodePoint) : Except Refusal Json := do
  let (value, behind) ← readValue (2 * points.length + 2) (Cursor.skipBlanks ⟨0, points⟩)
  let last := behind.skipBlanks
  if last.rest.isEmpty then return value else .error (.unexpected .extraData last.position)

/-- The plain value of a document. -/
def parse (document : List CodePoint) : Except Failure Json :=
  match readDocument document with
  | .ok value => .ok value
  | .error (.tooManyDigits count) => .error (.tooManyDigits count)
  | .error (.unexpected reason position) =>
    .error (.malformed (failureAt document reason position))

/-- The plain value of the text of a file, where a byte order mark is refused. -/
def parseFile (document : String) : Except Failure Json :=
  let points := document.toList.map CodePoint.char
  if document.toList.head? = some (Char.ofNat 0xFEFF) then
    .error (.malformed (failureAt points .byteOrderMark 0))
  else parse points

end Rehearsal.Json
