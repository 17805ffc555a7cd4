import Rehearsal.Text.Utf8

/-!
# Compressed data

Data in blocks of codes, read bit by bit. A block is stored as it is or consists of bytes and of
copies of what came before, written in two codes: one for bytes and lengths, one for distances. When
the data end too early, what was read up to there stands; data that nothing can be made of fail.
-/

namespace Rehearsal.Inflate

/-- Bits in the order in which they are read, the lowest one of a byte first. -/
abbrev Bits := List Bool

/-- What is wrong with compressed data. -/
inductive Failure where
  | header
  | method
  | windowSize
  | flags
  | headerSum
  | dictionary
  | blockKind
  | storedLength
  | codeCounts
  | lengthCode
  | repetition
  | noEnd
  | symbols
  | distances
  | symbol
  | distance
  | tooFarBack
  | sum
  | length
deriving DecidableEq, Repr

def Failure.words : Failure → String
  | header => "incorrect header check"
  | method => "unknown compression method"
  | windowSize => "invalid window size"
  | flags => "unknown header flags set"
  | headerSum => "header crc mismatch"
  | dictionary => ""
  | blockKind => "invalid block type"
  | storedLength => "invalid stored block lengths"
  | codeCounts => "too many length or distance symbols"
  | lengthCode => "invalid code lengths set"
  | repetition => "invalid bit length repeat"
  | noEnd => "invalid code -- missing end-of-block"
  | symbols => "invalid literal/lengths set"
  | distances => "invalid distances set"
  | symbol => "invalid literal/length code"
  | distance => "invalid distance code"
  | tooFarBack => "invalid distance too far back"
  | sum => "incorrect data check"
  | length => "incorrect length check"

def Failure.message : Failure → String
  | dictionary => "Error 2 while decompressing data"
  | f => "Error -3 while decompressing data: " ++ f.words

/-- Why reading stops before the end. -/
inductive Stop where
  | failed (f : Failure)
  /-- The data are over; what was read, last byte first. -/
  | starved (output : Text.Bytes)
deriving DecidableEq, Repr

/-- What is left to read, and what was read, last byte first. -/
structure Progress where
  bits : Bits
  output : Text.Bytes := []

def bitsOf (bytes : Text.Bytes) : Bits :=
  bytes.flatMap fun b => (List.range 8).map b.toNat.testBit

/-- A number of `count` bits, the lowest one first. -/
def takeBits : Nat → Bits → Option (Nat × Bits)
  | 0, bits => some (0, bits)
  | _ + 1, [] => none
  | count + 1, bit :: rest =>
    (takeBits count rest).map fun (n, behind) => (bit.toNat + 2 * n, behind)

/-- Reads a number, or stops where the data are over. -/
def number (output : Text.Bytes) (count : Nat) (bits : Bits) : Except Stop (Nat × Bits) :=
  match takeBits count bits with
  | some found => .ok found
  | none => .error (.starved output)

/-- The bits from the next byte on. -/
def nextByte (bits : Bits) : Bits := bits.drop (bits.length % 8)

/-! ## Codes -/

/-- The number of code words of each length, from one bit on, and their symbols in order. -/
structure Code where
  counts : List Nat
  symbols : List Nat

/-- The longest code word. -/
def longestWord : Nat := 15

namespace Code

/-- The code in which each symbol has a word of the given length, or none if that is zero. -/
def ofLengths (lengths : List Nat) : Code :=
  let sizes := (List.range longestWord).map (· + 1)
  { counts := sizes.map fun size => lengths.count size
    symbols := sizes.flatMap fun size =>
      (lengths.zipIdx.filter (·.1 == size)).map (·.2) }

/-- The words that are left over once all code words are given out; none if there are too few. -/
def unused (c : Code) : Option Nat :=
  c.counts.foldlM (fun left count => if count ≤ 2 * left then some (2 * left - count) else none) 1

/-- No word is left over. -/
def isComplete (c : Code) : Bool := c.unused == some 0

/-- A code may have no words at all. -/
def isEmpty (c : Code) : Bool := c.symbols.isEmpty

/-- A code may also have a single word of one bit. -/
def isSingle (c : Code) : Bool := c.symbols.length == 1 && c.counts.head? == some 1

/-- The symbol of the next code word, or none if there is no such word. `offset` is the distance
from the first word of this length. -/
def readFrom : List Nat → List Nat → Nat → Bits → Option (Option Nat × Bits)
  | [], _, _, bits => some (none, bits)
  | _ :: _, _, _, [] => none
  | count :: counts, symbols, offset, bit :: rest =>
    let here := 2 * offset + bit.toNat
    if here < count then some (symbols[here]?, rest)
    else if (symbols.drop count).isEmpty then some (none, rest)
    else readFrom counts (symbols.drop count) (here - count) rest

def read (c : Code) (bits : Bits) : Option (Option Nat × Bits) :=
  readFrom c.counts c.symbols 0 bits

/-- Reads a symbol, or stops. -/
def symbol (c : Code) (output : Text.Bytes) (broken : Failure) (bits : Bits) :
    Except Stop (Nat × Bits) :=
  match c.read bits with
  | none => .error (.starved output)
  | some (none, _) => .error (.failed broken)
  | some (some s, rest) => .ok (s, rest)

end Code

/-- The least length of each symbol for lengths, and the bits that are added to it. -/
def lengthParts : List (Nat × Nat) :=
  [(3, 0), (4, 0), (5, 0), (6, 0), (7, 0), (8, 0), (9, 0), (10, 0), (11, 1), (13, 1), (15, 1),
   (17, 1), (19, 2), (23, 2), (27, 2), (31, 2), (35, 3), (43, 3), (51, 3), (59, 3), (67, 4),
   (83, 4), (99, 4), (115, 4), (131, 5), (163, 5), (195, 5), (227, 5), (258, 0)]

/-- The same for distances. -/
def distanceParts : List (Nat × Nat) :=
  [(1, 0), (2, 0), (3, 0), (4, 0), (5, 1), (7, 1), (9, 2), (13, 2), (17, 3), (25, 3), (33, 4),
   (49, 4), (65, 5), (97, 5), (129, 6), (193, 6), (257, 7), (385, 7), (513, 8), (769, 8),
   (1025, 9), (1537, 9), (2049, 10), (3073, 10), (4097, 11), (6145, 11), (8193, 12), (12289, 12),
   (16385, 13), (24577, 13)]

/-! ## Blocks -/

/-- Repeats the `count` bytes that begin `distance` back. They may reach into the repetition itself,
which then goes round. -/
def copy (distance count : Nat) (output : Text.Bytes) : Text.Bytes :=
  if distance = 0 then output
  else if count ≤ distance then (output.drop (distance - count)).take count ++ output
  else copy distance (count - distance) (output.take distance ++ output)
termination_by count
decreasing_by omega

/-- Whether the output has a byte `distance` back. -/
def reaches (distance : Nat) (output : Text.Bytes) : Bool := !(output.drop (distance - 1)).isEmpty

/-- A length or a distance that is made of a part and some bits. -/
def withBits (parts : List (Nat × Nat)) (index : Nat) (broken : Failure) (output : Text.Bytes)
    (bits : Bits) : Except Stop (Nat × Bits) := do
  match parts[index]? with
  | none => .error (.failed broken)
  | some (base, count) =>
    let (more, rest) ← number output count bits
    return (base + more, rest)

/-- The symbols of a block up to its end. Each of them takes a bit at least. -/
def readSymbols (words distances : Code) : Nat → Progress → Except Stop Progress
  | 0, p => .error (.starved p.output)
  | fuel + 1, p => do
    let (s, rest) ← words.symbol p.output .symbol p.bits
    if s < 256 then readSymbols words distances fuel ⟨rest, UInt8.ofNat s :: p.output⟩
    else if s = 256 then return ⟨rest, p.output⟩
    else
      let (length, rest) ← withBits lengthParts (s - 257) .symbol p.output rest
      let (d, rest) ← distances.symbol p.output .distance rest
      let (distance, rest) ← withBits distanceParts d .distance p.output rest
      if reaches distance p.output then
        readSymbols words distances fuel ⟨rest, copy distance length p.output⟩
      else .error (.failed .tooFarBack)

/-- A block of bytes as they are. -/
def readStored (p : Progress) : Except Stop Progress := do
  let (length, rest) ← number p.output 16 (nextByte p.bits)
  let (complement, rest) ← number p.output 16 rest
  if length + complement ≠ 65535 then .error (.failed .storedLength)
  else readBytes length ⟨rest, p.output⟩
where
  readBytes : Nat → Progress → Except Stop Progress
    | 0, p => .ok p
    | count + 1, p => do
      let (b, rest) ← number p.output 8 p.bits
      readBytes count ⟨rest, UInt8.ofNat b :: p.output⟩

/-- The codes of blocks that bring none along. -/
def fixedWords : Code :=
  .ofLengths (List.replicate 144 8 ++ List.replicate 112 9 ++ List.replicate 24 7 ++
    List.replicate 8 8)

def fixedDistances : Code := .ofLengths (List.replicate 32 5)

/-- The order in which the lengths of the code for lengths come. -/
def lengthOrder : List Nat := [16, 17, 18, 0, 8, 7, 9, 6, 10, 5, 11, 4, 12, 3, 13, 2, 14, 1, 15]

def readNumbers (output : Text.Bytes) (size : Nat) :
    Nat → Bits → Except Stop (List Nat × Bits)
  | 0, bits => .ok ([], bits)
  | count + 1, bits => do
    let (n, rest) ← number output size bits
    let (ns, rest) ← readNumbers output size count rest
    return (n :: ns, rest)

/-- Lengths in a code of their own, which also has words for repetitions; the last one read comes
first. -/
def readLengths (output : Text.Bytes) (code : Code) (total : Nat) :
    Nat → List Nat → Bits → Except Stop (List Nat × Bits)
  | 0, _, _ => .error (.starved output)
  | fuel + 1, lengths, bits => do
    if total ≤ lengths.length then return (lengths, bits)
    let (s, rest) ← if code.isEmpty then number output 1 bits else
      code.symbol output .lengthCode bits
    let repeated (n least size : Nat) : Except Stop (List Nat × Bits) := do
      let (more, rest) ← number output size rest
      if total < lengths.length + least + more then .error (.failed .repetition)
      else readLengths output code total fuel (List.replicate (least + more) n ++ lengths) rest
    if code.isEmpty then readLengths output code total fuel (0 :: lengths) rest
    else if s < 16 then readLengths output code total fuel (s :: lengths) rest
    else if s = 16 then
      match lengths with
      | last :: _ => repeated last 3 2
      | [] => do
        let _ ← number output 2 rest
        .error (.failed .repetition)
    else if s = 17 then repeated 0 3 3
    else repeated 0 11 7

/-- The codes that a block brings along. -/
def readCodes (p : Progress) : Except Stop (Code × Code × Bits) := do
  let (counts, rest) ← number p.output 14 p.bits
  let words := counts % 32 + 257
  let distances := counts / 32 % 32 + 1
  if 286 < words || 30 < distances then throw (.failed .codeCounts)
  let (sizes, rest) ← readNumbers p.output 3 (counts / 1024 + 4) rest
  let code : Code := .ofLengths ((List.range 19).map fun n =>
    ((lengthOrder.zip sizes).find? (·.1 == n)).elim 0 (·.2))
  if !code.isComplete && !code.isEmpty then throw (.failed .lengthCode)
  let total := words + distances
  let (reversed, rest) ← readLengths p.output code total (total + 1) [] rest
  let lengths := reversed.reverse
  if lengths.getD 256 0 = 0 then throw (.failed .noEnd)
  let first := Code.ofLengths (lengths.take words)
  let second := Code.ofLengths (lengths.drop words)
  if !first.isComplete && !first.isSingle then throw (.failed .symbols)
  if !second.isComplete && !second.isSingle && !second.isEmpty then throw (.failed .distances)
  return (first, second, rest)

/-- Blocks up to the one that is marked as the last. Each of them takes three bits at least. -/
def readBlocks : Nat → Progress → Except Stop Progress
  | 0, p => .error (.starved p.output)
  | fuel + 1, p => do
    let (head, rest) ← number p.output 3 p.bits
    let inside : Progress := ⟨rest, p.output⟩
    let behind ← match head / 2 with
      | 0 => readStored inside
      | 1 => readSymbols fixedWords fixedDistances (rest.length + 1) inside
      | 2 => do
        let (words, distances, body) ← readCodes inside
        readSymbols words distances (body.length + 1) ⟨body, p.output⟩
      | _ => .error (.failed .blockKind)
    if head % 2 = 1 then return behind else readBlocks fuel behind

def blocks (bits : Bits) : Except Stop Progress := readBlocks (bits.length + 1) ⟨bits, []⟩

end Rehearsal.Inflate
