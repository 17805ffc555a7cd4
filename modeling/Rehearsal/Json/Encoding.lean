import Rehearsal.Text.Units

/-!
# The encoding of a JSON document

A document in bytes shows its encoding by a byte order mark or, its first characters being ASCII,
by the places of its zero bytes. Surrogates without a partner are let through.
-/

namespace Rehearsal.Json

open Text

inductive Encoding where
  | utf8
  | utf16 (order : Endian)
  | utf32 (order : Endian)
deriving DecidableEq, Repr

/-- The encoding and the length of the byte order mark. -/
def detect (bytes : Bytes) : Encoding × Nat :=
  match bytes with
  | 0 :: 0 :: 0xFE :: 0xFF :: _ => (.utf32 .big, 4)
  | 0xFF :: 0xFE :: 0 :: 0 :: _ => (.utf32 .little, 4)
  | 0xFE :: 0xFF :: _ => (.utf16 .big, 2)
  | 0xFF :: 0xFE :: _ => (.utf16 .little, 2)
  | 0xEF :: 0xBB :: 0xBF :: _ => (.utf8, 3)
  | 0 :: b :: _ :: _ :: _ => if b = 0 then (.utf32 .big, 0) else (.utf16 .big, 0)
  | _ :: 0 :: c :: d :: _ => if c = 0 && d = 0 then (.utf32 .little, 0) else (.utf16 .little, 0)
  | [0, _] => (.utf16 .big, 0)
  | [_, 0] => (.utf16 .little, 0)
  | _ => (.utf8, 0)

/-- The code points of a document. In units of one byte positions are counted behind the mark. -/
def decodeDocument (bytes : Bytes) : Except DecodeFailure (List CodePoint) :=
  let (encoding, mark) := detect bytes
  let body := bytes.drop mark
  match encoding with
  | .utf8 => decodeFrom true 0 0 body
  | .utf16 order => decode16 order mark body
  | .utf32 order => decode32 order mark body

end Rehearsal.Json
