import Rehearsal.Text.Literal

/-!
# UTF-8

Encoding is that of the characters, and a surrogate has none; decoding reports the first byte that
fits nowhere, how many bytes belong to the broken sequence, and why.
-/

namespace Rehearsal.Text

abbrev Bytes := List UInt8

def encodeChar (c : Char) : Bytes :=
  (String.singleton c).toUTF8.toList

/-- The bytes of a text. -/
def encode (s : String) : Bytes := s.toUTF8.toList

/-- Why a sequence of bytes stands for no character. -/
inductive DecodeReason where
  | invalidStart
  | invalidContinuation
  | endOfData
  /-- Reported by the writer of settings, which does not distinguish the reasons. -/
  | invalid
  /-- The bytes left over make no whole unit. -/
  | truncated
  /-- A unit past the last code point. -/
  | outOfRange
deriving DecidableEq, Repr

def DecodeReason.text : DecodeReason → String
  | invalidStart => "invalid start byte"
  | invalidContinuation => "invalid continuation byte"
  | endOfData => "unexpected end of data"
  | invalid => "invalid utf-8"
  | truncated => "truncated data"
  | outOfRange => "code point not in range(0x110000)"

/-- A decoding failure: the bytes `first`, …, `last` of the input, the encoding and the reason. -/
structure DecodeFailure where
  encoding : String
  byte : UInt8
  first : Nat
  last : Nat
  reason : DecodeReason
deriving DecidableEq, Repr

/-- One byte is shown, several are only counted. -/
def DecodeFailure.message (f : DecodeFailure) : String :=
  let place :=
    if f.first = f.last then
      "byte 0x" ++ hex [f.byte] ++ " in position " ++ toString f.first
    else "bytes in position " ++ toString f.first ++ "-" ++ toString f.last
  "'" ++ f.encoding ++ "' codec can't decode " ++ place ++ ": " ++ f.reason.text

/-- The failure as the writer of documents reports it. -/
def DecodeFailure.writerMessage (f : DecodeFailure) : String :=
  match f.reason with
  | .endOfData => "incomplete utf-8 byte sequence from index " ++ toString f.first
  | _ =>
    "invalid utf-8 sequence of " ++ toString (f.last - f.first + 1) ++ " bytes from index " ++
      toString f.first

def isContinuation (b : UInt8) : Bool := b.toNat / 64 == 2

/-- Length of the sequence that a byte starts, and the values allowed for its second byte. -/
structure Lead where
  length : Nat
  low : Nat
  high : Nat

def lead (b : UInt8) : Option Lead :=
  let n := b.toNat
  if n < 0x80 then some ⟨1, 0, 0⟩
  else if n < 0xC2 then none
  else if n < 0xE0 then some ⟨2, 0x80, 0xBF⟩
  else if n = 0xE0 then some ⟨3, 0xA0, 0xBF⟩
  else if n = 0xED then some ⟨3, 0x80, 0x9F⟩
  else if n < 0xF0 then some ⟨3, 0x80, 0xBF⟩
  else if n = 0xF0 then some ⟨4, 0x90, 0xBF⟩
  else if n < 0xF4 then some ⟨4, 0x80, 0xBF⟩
  else if n = 0xF4 then some ⟨4, 0x80, 0x8F⟩
  else none

/-- How many bytes after the first one fit, at most `count`. -/
def fitting (l : Lead) : Nat → Nat → Bytes → Nat
  | 0, _, _ => 0
  | _ + 1, _, [] => 0
  | count + 1, index, b :: rest =>
    let fits :=
      if index = 1 then decide (l.low ≤ b.toNat) && decide (b.toNat ≤ l.high) else isContinuation b
    if fits then fitting l count (index + 1) rest + 1 else 0

/-- The code point of a complete sequence. -/
def codePoint (b : UInt8) (l : Lead) (rest : Bytes) : Nat :=
  let payload :=
    match l.length with
    | 1 => b.toNat
    | 2 => b.toNat % 32
    | 3 => b.toNat % 16
    | _ => b.toNat % 8
  (rest.take (l.length - 1)).foldl (fun n c => n * 64 + c.toNat % 64) payload

/-- Whether the three-byte form of a surrogate starts here. -/
def isSurrogate (b : UInt8) : Bytes → Bool
  | second :: third :: _ =>
    b.toNat == 0xED && decide (0xA0 ≤ second.toNat) && isContinuation second && isContinuation third
  | _ => false

/-- The number of a surrogate in its three-byte form. -/
def surrogateNumber (b : UInt8) (rest : Bytes) : Nat := codePoint b ⟨3, 0xA0, 0xBF⟩ rest

/-- Decodes `bytes`, whose first byte has position `position`; `skip` bytes belong to the
character before. With `surrogates`, the three-byte form of a surrogate is let through. -/
def decodeFrom (surrogates : Bool) : Nat → Nat → Bytes → Except DecodeFailure (List CodePoint)
  | _, _, [] => .ok []
  | skip + 1, position, _ :: rest => decodeFrom surrogates skip (position + 1) rest
  | 0, position, b :: rest =>
    if surrogates && isSurrogate b rest then do
      let tail ← decodeFrom surrogates 2 (position + 1) rest
      return .ofNumber (surrogateNumber b rest) :: tail
    else match lead b with
    | none => .error ⟨"utf-8", b, position, position, .invalidStart⟩
    | some l =>
      let found := fitting l (l.length - 1) 1 rest
      if found + 1 = l.length then do
        let tail ← decodeFrom surrogates (l.length - 1) (position + 1) rest
        return .ofNumber (codePoint b l rest) :: tail
      else if found = rest.length then
        .error ⟨"utf-8", b, position, position + found, .endOfData⟩
      else .error ⟨"utf-8", b, position, position + found, .invalidContinuation⟩

/-- Strict decoding. -/
def decode (bytes : Bytes) : Except DecodeFailure String :=
  (decodeFrom false 0 0 bytes).map fun points => String.ofList (points.map CodePoint.shown)

/-- Decoding with the replacement character for whatever stands for no character; `skip` bytes
belong to the character before. -/
def decodeShown : Nat → Bytes → List Char
  | _, [] => []
  | skip + 1, _ :: rest => decodeShown skip rest
  | 0, b :: rest =>
    match lead b with
    | none => '\ufffd' :: decodeShown 0 rest
    | some l =>
      let found := fitting l (l.length - 1) 1 rest
      if found + 1 = l.length then Char.ofNat (codePoint b l rest) :: decodeShown found rest
      else '\ufffd' :: decodeShown found rest

/-- The code points `first`, …, `last` of a text, which have no bytes; `number` is the first. -/
structure EncodeFailure where
  number : Nat
  first : Nat
  last : Nat
deriving DecidableEq, Repr

namespace EncodeFailure

/-- One code point is shown, several are only counted. -/
def place (f : EncodeFailure) : String :=
  if f.first = f.last then
    "character '" ++ String.ofList (escapeNumber f.number) ++ "' in position " ++ toString f.first
  else "characters in position " ++ toString f.first ++ "-" ++ toString f.last

def message (f : EncodeFailure) : String :=
  "'utf-8' codec can't encode " ++ f.place ++ ": surrogates not allowed"

/-- The same where only ASCII can be encoded. -/
def asciiMessage (f : EncodeFailure) : String :=
  "'ascii' codec can't encode " ++ f.place ++ ": ordinal not in range(128)"

end EncodeFailure

/-- The first run of surrogates in the text from a position on. -/
def firstSurrogates? (position : Nat) : List CodePoint → Option EncodeFailure
  | [] => none
  | .char _ :: rest => firstSurrogates? (position + 1) rest
  | .surrogate n :: rest =>
    some ⟨n, position, position + (rest.takeWhile CodePoint.isSurrogate).length⟩

/-- The first run of characters outside ASCII in the text from a position on. -/
def firstWide? (position : Nat) : List Char → Option EncodeFailure
  | [] => none
  | c :: rest =>
    if c.toNat < 128 then firstWide? (position + 1) rest
    else some ⟨c.toNat, position, position + (rest.takeWhile (128 ≤ ·.toNat)).length⟩

end Rehearsal.Text
