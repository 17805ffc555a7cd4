import Rehearsal.Host.Inflate

/-!
# Content encodings

A body may be compressed in one of two envelopes, of which each has a header and sums by which the
data are checked; one of them may also be missing. Encodings that are not known are passed over.
-/

namespace Rehearsal.Compression

open Inflate

/-! ## Sums -/

/-- One bit of the cyclic sum. -/
def sumStep (n : Nat) : Nat := if n % 2 = 1 then (n / 2) ^^^ 0xEDB88320 else n / 2

def sumByte (n : Nat) (b : UInt8) : Nat := Nat.repeat sumStep 8 (n ^^^ b.toNat)

/-- The cyclic sum of some bytes. -/
def cyclicSum (bytes : Text.Bytes) : Nat := bytes.foldl sumByte 0xFFFFFFFF ^^^ 0xFFFFFFFF

/-- The sum of the bytes, and the sum of all sums on the way. -/
def doubleSum (bytes : Text.Bytes) : Nat :=
  let (a, b) := bytes.foldl (fun (a, b) byte =>
    let next := (a + byte.toNat) % 65521
    (next, (b + next) % 65521)) (1, 0)
  b * 65536 + a

/-- The four bytes of a number in the other order. -/
def swapped (n : Nat) : Nat :=
  n % 256 * 16777216 + n / 256 % 256 * 65536 + n / 65536 % 256 * 256 + n / 16777216

/-! ## Envelopes -/

/-- Skips a name up to its zero byte. -/
def skipName : Nat → Bits → Except Stop Bits
  | 0, _ => .error (.starved [])
  | fuel + 1, bits => do
    let (b, rest) ← number [] 8 bits
    if b = 0 then return rest else skipName fuel rest

def skipExtra (bits : Bits) : Except Stop Bits := do
  let (length, rest) ← number [] 16 bits
  let (_, rest) ← number [] (8 * length) rest
  return rest

/-- The bits behind the header of a file: mark, method, flags, and what the flags announce. -/
def fileHeader (bytes : Text.Bytes) : Except Stop Bits := do
  let bits := bitsOf bytes
  let (mark, rest) ← number [] 16 bits
  if mark ≠ 0x8B1F then throw (.failed .header)
  let (head, rest) ← number [] 16 rest
  if head % 256 ≠ 8 then throw (.failed .method)
  let flags := head / 256
  if 32 ≤ flags then throw (.failed .flags)
  let (_, rest) ← number [] 48 rest
  let rest ← if flags.testBit 2 then skipExtra rest else pure rest
  let rest ← if flags.testBit 3 then skipName (rest.length + 1) rest else pure rest
  let rest ← if flags.testBit 4 then skipName (rest.length + 1) rest else pure rest
  if flags.testBit 1 then
    let (sum, behind) ← number [] 16 rest
    if sum ≠ cyclicSum (bytes.take ((bits.length - rest.length) / 8)) % 65536 then
      throw (.failed .headerSum)
    return behind
  else return rest

/-- Data with the header and the sums of a file. -/
def ofFile (bytes : Text.Bytes) : Except Stop Text.Bytes := do
  let p ← blocks (← fileHeader bytes)
  let (sum, rest) ← number p.output 32 (nextByte p.bits)
  if sum ≠ cyclicSum p.output.reverse then throw (.failed .sum)
  let (length, _) ← number p.output 32 rest
  if length ≠ p.output.length % Nat.pow 2 32 then throw (.failed .length)
  return p.output.reverse

/-- Data with the short header and the sum of a stream. -/
def ofStream (bytes : Text.Bytes) : Except Stop Text.Bytes := do
  let (head, rest) ← number [] 16 (bitsOf bytes)
  if (head % 256 * 256 + head / 256) % 31 ≠ 0 then throw (.failed .header)
  if head % 16 ≠ 8 then throw (.failed .method)
  if 7 < head / 16 % 16 then throw (.failed .windowSize)
  if head.testBit 13 then
    let _ ← number [] 32 rest
    throw (.failed .dictionary)
  let p ← blocks rest
  let (sum, _) ← number p.output 32 (nextByte p.bits)
  if sum ≠ swapped (doubleSum p.output.reverse) then throw (.failed .sum)
  return p.output.reverse

/-- Data without any header. -/
def ofBare (bytes : Text.Bytes) : Except Stop Text.Bytes :=
  (blocks (bitsOf bytes)).map (·.output.reverse)

/-- Data that end too early give what was read. -/
def settled (result : Except Stop Text.Bytes) : Except Failure Text.Bytes :=
  match result with
  | .ok bytes => .ok bytes
  | .error (.starved output) => .ok output.reverse
  | .error (.failed f) => .error f

/-- The data behind an encoding, given by its name. -/
def decodeOne (name : String) (bytes : Text.Bytes) : Except Failure Text.Bytes :=
  match name with
  | "gzip" => settled (ofFile bytes)
  | "deflate" =>
    match settled (ofStream bytes) with
    | .ok decoded => .ok decoded
    | .error _ => settled (ofBare bytes)
  | _ => .ok bytes

/-- The data behind several encodings, of which the last one was applied last. -/
def decode (names : List String) (bytes : Text.Bytes) : Except Failure Text.Bytes :=
  names.foldrM decodeOne bytes

end Rehearsal.Compression
