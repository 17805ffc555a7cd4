import Rehearsal.Text.Composition
import Rehearsal.Text.Direction
import Rehearsal.Text.Joining
import Rehearsal.Text.Literal
import Rehearsal.Text.Lowercase
import Rehearsal.Text.NameCharacter
import Rehearsal.Text.Punycode
import Rehearsal.Text.Script

/-!
# Names of hosts

A name with characters outside ASCII is asked for by its form in ASCII. Its labels, which have dots
between them, have to keep the rules for names: about composed form, about the place of hyphens and
marks, about the characters, about those that need certain neighbours, and about writing from right
to left. A name that is in ASCII already is read back to see whether it keeps them.
-/

namespace Rehearsal

/-- Why a text is no name of a host. Positions are counted from one. -/
inductive HostNameFailure where
  | tooLong
  | empty
  | emptyLabel
  | longLabel
  | uncomposed
  | innerHyphens
  | outerHyphen
  | leadingMark
  /-- A joiner without the neighbours that it needs. -/
  | joiner (n position : Nat) (label : List Nat)
  /-- Another code point without the neighbours that it needs. -/
  | context (n position : Nat) (label : List Nat)
  | codePoint (n position : Nat) (label : List Nat)
  | unknownDirection (label : List Nat) (position : Nat)
  | firstDirection (label : List Nat)
  | wrongDirection (position : Nat) (right : Bool)
  | mixedDigits
  | ending
  /-- A label in the form for ASCII with nothing behind its mark. -/
  | bareMark
  | trailingHyphen
  | malformed
deriving DecidableEq, Repr

namespace HostNameFailure

/-- A code point by its number. -/
def codePointName (n : Nat) : String :=
  let digits := (Nat.toDigits 16 n).map Char.toUpper
  "U+" ++ String.ofList (List.replicate (4 - digits.length) '0' ++ digits)

def shown (label : List Nat) : String := Text.literalPoints (label.map .ofNumber)

/-- The kind of the failure. -/
def kind : HostNameFailure → String
  | context _ _ _ => "InvalidCodepointContext"
  | codePoint _ _ _ => "InvalidCodepoint"
  | unknownDirection _ _ | firstDirection _ | wrongDirection _ _ | mixedDigits | ending =>
    "IDNABidiError"
  | _ => "IDNAError"

def message : HostNameFailure → String
  | tooLong => "Domain too long"
  | empty => "Empty domain"
  | emptyLabel => "Empty Label"
  | longLabel => "Label too long"
  | uncomposed => "Label must be in Normalization Form C"
  | innerHyphens => "Label has disallowed hyphens in 3rd and 4th position"
  | outerHyphen => "Label must not start or end with a hyphen"
  | leadingMark => "Label begins with an illegal combining character"
  | joiner n position label =>
    "Unknown codepoint adjacent to joiner " ++ codePointName n ++ " at position " ++
      toString position ++ " in " ++ shown label
  | context n position label =>
    "Codepoint " ++ codePointName n ++ " not allowed at position " ++ toString position ++
      " in " ++ shown label
  | codePoint n position label =>
    "Codepoint " ++ codePointName n ++ " at position " ++ toString position ++ " of " ++
      shown label ++ " not allowed"
  | unknownDirection label position =>
    "Unknown directionality in label " ++ shown label ++ " at position " ++ toString position
  | firstDirection label =>
    "First codepoint in label " ++ shown label ++ " must be directionality L, R or AL"
  | wrongDirection position right =>
    "Invalid direction for codepoint at position " ++ toString position ++ " in a " ++
      (if right then "right-to-left" else "left-to-right") ++ " label"
  | mixedDigits => "Can not mix numeral types in a right-to-left label"
  | ending => "Label ends with illegal codepoint directionality"
  | bareMark => "Malformed A-label, no Punycode eligible content found"
  | trailingHyphen => "A-label must not end with a hyphen"
  | malformed => "Invalid A-label"

end HostNameFailure

namespace HostName

open Text (Direction)

abbrev Label := List Nat

/-! ## Code points -/

/-- Whether a joiner may follow a code point whatever comes next: one that takes away the vowel of a
letter. -/
def isVowelKiller (n : Nat) : Bool := Text.combiningClass n == 9

/-- Whether a joiner may stand between two parts of a label, of which the first one is in reverse.
One of the two joiners also parts letters that would be joined. -/
def mayJoin (n : Nat) (before after : Label) : Bool :=
  match before with
  | [] => false
  | m :: _ =>
    isVowelKiller m ||
      (n == 0x200C && Text.direction m != .unknown &&
        (before.dropWhile Text.isTransparent).head?.any Text.joinsNext &&
        (after.dropWhile Text.isTransparent).head?.any Text.joinsPrevious)

/-- Code points that need certain others around them. -/
def isContextual (n : Nat) : Bool :=
  [0xB7, 0x375, 0x5F3, 0x5F4, 0x30FB].contains n || Text.inRanges [(0x660, 0x669)] n ||
    Text.inRanges [(0x6F0, 0x6F9)] n

/-- Whether such a code point may stand in a label behind and in front of its neighbours. -/
def hasContext (label : Label) (before : Option Nat) (n : Nat) (after : Option Nat) : Bool :=
  match n with
  | 0xB7 => before == some 0x6C && after == some 0x6C
  | 0x375 => after.any Text.isGreek
  | 0x5F3 | 0x5F4 => before.any Text.isHebrew
  | 0x30FB => label.any fun m => m != 0x30FB && Text.isEastAsian m
  | n =>
    if n < 0x6F0 then !label.any (Text.inRanges [(0x6F0, 0x6F9)])
    else !label.any (Text.inRanges [(0x660, 0x669)])

/-- Looks at the rest of a label; what comes before it is in reverse. -/
def checkCodePoints (label before : Label) : Label → Except HostNameFailure Unit
  | [] => .ok ()
  | n :: rest => do
    let position := before.length + 1
    if Text.isNameCharacter n then pure ()
    else if n = 0x200C ∨ n = 0x200D then
      if !mayJoin n before rest then throw (.joiner n position label)
    else if isContextual n then
      if !hasContext label before.head? n rest.head? then throw (.context n position label)
    else throw (.codePoint n position label)
    checkCodePoints label (n :: before) rest

/-! ## Directions -/

/-- Whether a label from right to left, or one from left to right, may have a code point. -/
def mayStand (right : Bool) (d : Direction) : Bool :=
  if right then d != .leftToRight else d != .rightToLeft && d != .arabicNumber

/-- Whether a label may end with a code point; a mark says nothing. -/
def mayEnd? (right : Bool) (d : Direction) : Option Bool :=
  match d with
  | .following => none
  | .number => some true
  | .rightToLeft | .arabicNumber => some right
  | .leftToRight => some (!right)
  | _ => some false

/-- Looks at directions from a position on; `ends` tells whether the label may end here, and
`digits` is the direction of the digits so far. -/
def checkOrder (right : Bool) (position : Nat) (ends : Bool) (digits : Option Direction) :
    List Direction → Except HostNameFailure Unit
  | [] => if ends then .ok () else .error .ending
  | d :: rest => do
    if !mayStand right d then throw (.wrongDirection position right)
    let isDigit := right && (d == .number || d == .arabicNumber)
    if isDigit && digits.any (· != d) then throw .mixedDigits
    let digits := if isDigit then some d else digits
    checkOrder right (position + 1) ((mayEnd? right d).getD ends) digits rest

/-- A label with letters or digits from right to left has one direction. -/
def checkDirections (label : Label) : Except HostNameFailure Unit := do
  let directions := label.map Text.direction
  let known := directions.takeWhile (· != .unknown)
  if known.length < directions.length then throw (.unknownDirection label (known.length + 1))
  if directions.any fun d => d == .rightToLeft || d == .arabicNumber then
    match directions.head? with
    | some .rightToLeft => checkOrder true 1 false none directions
    | some .leftToRight => checkOrder false 1 false none directions
    | _ => throw (.firstDirection label)

/-! ## Labels -/

def hyphen : Nat := 0x2D

def fullStop : Nat := 0x2E

/-- The longest name, which may have a dot behind its last label. -/
def nameLimit : Nat := 254

def labelLimit : Nat := 63

def checkLabel (label : Label) : Except HostNameFailure Unit := do
  if label.isEmpty then throw .emptyLabel
  if nameLimit < label.length then throw .longLabel
  if !Text.isComposed label then throw .uncomposed
  if (label.drop 2).take 2 = [hyphen, hyphen] then throw .innerHyphens
  if label.head? = some hyphen ∨ label.getLast? = some hyphen then throw .outerHyphen
  if label.head?.any Text.isMark then throw .leadingMark
  checkCodePoints label [] label
  checkDirections label

def isAscii (label : Label) : Bool := label.all (· < 128)

/-- The mark of a label that stands for other characters. -/
def encodedMark : List Char := ['x', 'n', '-', '-']

/-- The label that a label in ASCII stands for, in lower case. -/
def decodeLabel (label : Label) : Except HostNameFailure Label := do
  let cs := label.map fun n => (Char.ofNat n).toLower
  if encodedMark.isPrefixOf cs then
    let code := cs.drop encodedMark.length
    if code.isEmpty then throw .bareMark
    if code.getLast? = some '-' then throw .trailingHyphen
    match Text.Punycode.decode? code with
    | some decoded =>
      checkLabel decoded
      return decoded
    | none => throw .malformed
  else
    let lowered := cs.map Char.toNat
    checkLabel lowered
    return lowered

/-- The form of a label in ASCII. -/
def encodeLabel (label : Label) : Except HostNameFailure (List Char) := do
  let encoded ←
    if isAscii label then do
      let _ ← decodeLabel label
      pure (label.map Char.ofNat)
    else do
      checkLabel label
      pure (encodedMark ++ Text.Punycode.encode label)
  if labelLimit < encoded.length then throw .longLabel
  return encoded

/-! ## Names -/

/-- The full stop and its forms in other scripts. -/
def isDot (n : Nat) : Bool := [fullStop, 0x3002, 0xFF0E, 0xFF61].contains n

def labels (name : List Nat) : List Label :=
  name.foldr (fun n parts =>
    match parts with
    | label :: rest => if isDot n then [] :: label :: rest else (n :: label) :: rest
    | [] => [[n]]) [[]]

/-- Changes each label of a name; a dot behind the last one stays. -/
def mapLabels {α : Type} (change : Label → Except HostNameFailure (List α)) (dot : α)
    (name : List Nat) : Except HostNameFailure (List α) := do
  if nameLimit < name.length then throw .tooLong
  let parts := labels name
  if parts = [[]] then throw .empty
  let closed := parts.getLast? = some []
  let changed ← (if closed then parts.dropLast else parts).mapM change
  let joined := [dot].intercalate changed
  return if closed then joined ++ [dot] else joined

/-- The form of a name in ASCII. -/
def encode (name : String) : Except HostNameFailure String := do
  let lowered := (Text.lower name).toList.map Char.toNat
  let encoded ← mapLabels encodeLabel '.' lowered
  let closed := encoded.getLast? = some '.'
  if nameLimit < encoded.length + (if closed then 0 else 1) then throw .tooLong
  return String.ofList encoded

/-- What a name stands for: one in the form for ASCII is read back, any other one is left as it
is. -/
def decode (name : String) : Except HostNameFailure String := do
  if encodedMark.isPrefixOf name.toList then
    let decoded ← mapLabels decodeLabel fullStop (name.toList.map Char.toNat)
    return String.ofList (decoded.map Char.ofNat)
  return name

end HostName

end Rehearsal
