import Rehearsal.Text.Blank
import Rehearsal.Text.Literal

/-!
# Outlines

An outline is what is known of a literal before it is laid out. It stays on one line if it fits
there; else each of its parts gets a line of its own, and a long text is broken behind blanks.
-/

namespace Rehearsal.Text

inductive Outline where
  /-- What is never broken. -/
  | atom (whole : String)
  | text (points : List CodePoint)
  | bytes (contents : List UInt8)
  /-- Labelled parts between brackets; behind the last one `reserve` characters have to fit. -/
  | group (whole opening closing : String) (reserve : Nat) (parts : List (String × Outline))

namespace Outline

/-- The characters of a line. -/
def width : Nat := 72

/-- Whether a text fits on a line behind `indent` characters and in front of `reserve` ones. -/
def fits (indent reserve : Nat) (s : String) : Bool := decide (s.length + indent + reserve ≤ width)

/-- The literal on one line. -/
def whole : Outline → String
  | atom s => s
  | text points => literalPoints points
  | bytes contents => literalBytes contents
  | group s _ _ _ _ => s

def isSpacePoint : CodePoint → Bool
  | .char c => isSpace c
  | .surrogate _ => false

/-- Code points that end a line; a feed behind a return belongs to the same end. -/
def endsLine (point : CodePoint) : Bool :=
  inRanges [(0xA, 0xD), (0x1C, 0x1E), (0x85, 0x85), (0x2028, 0x2029)] point.number

/-- The lines of a text with their ends. -/
def splitLines : List CodePoint → List (List CodePoint)
  | [] => []
  | c :: rest =>
    let continues := c.number == 0xD && rest.head?.any fun next => next.number == 0xA
    if endsLine c && !continues then [c] :: splitLines rest
    else match splitLines rest with
      | line :: lines => (c :: line) :: lines
      | [] => [[c]]

/-- Words with the spaces behind them; a text may start with spaces. -/
def splitWords : List CodePoint → List (List CodePoint)
  | [] => []
  | c :: rest =>
    let starts := isSpacePoint c && rest.head?.any fun next => !isSpacePoint next
    match splitWords rest with
    | word :: words => if starts then [c] :: word :: words else (c :: word) :: words
    | [] => [[c]]

/-- Joins parts as long as their literals fit; behind the last part there has to be room for
`reserve` characters. -/
def pack {α : Type} (literal : List α → String) (indent : Nat) (reserve : List α → Nat)
    (current : List α) : List (List α) → List String
  | [] => if current.isEmpty then [] else [literal current]
  | part :: rest =>
    let behind := if rest.isEmpty then reserve part else 0
    if fits indent behind (literal (current ++ part)) then
      pack literal indent reserve (current ++ part) rest
    else
      (if current.isEmpty then [] else [literal current]) ++ pack literal indent reserve part rest

/-- The pieces of a text line by line. -/
def textPieces (indent reserve : Nat) : List (List CodePoint) → List String
  | [] => []
  | line :: rest =>
    let behind := if rest.isEmpty then reserve else 0
    let pieces :=
      if fits indent behind (literalPoints line) then [literalPoints line]
      else pack literalPoints indent (fun _ => behind) [] (splitWords line)
    pieces ++ textPieces indent reserve rest

/-- Groups of four bytes, the last of which may be shorter. -/
def splitBytes : List UInt8 → List (List UInt8)
  | a :: b :: c :: d :: rest => [a, b, c, d] :: splitBytes rest
  | [] => []
  | rest => [rest]

/-- The pieces of a byte string. Room behind it is only kept if its last group is short. -/
def bytePieces (indent reserve : Nat) (contents : List UInt8) : List String :=
  pack literalBytes indent (fun part => if part.length < 4 then reserve else 0) []
    (splitBytes contents)

/-- Lines below each other. -/
def stacked (indent : Nat) (separator : String) (lines : List String) : String :=
  (separator ++ "\n" ++ String.ofList (List.replicate indent ' ')).intercalate lines

/-- Pieces that stand for one literal, in brackets if it does not stand inside another one. -/
def joinPieces (outermost : Bool) (indent : Nat) (pieces : List String) : String :=
  if outermost then "(" ++ stacked indent "" pieces ++ ")" else stacked indent "" pieces

mutual

/-- The literal behind `indent` characters and in front of `reserve` ones. -/
def layOut (outermost : Bool) (indent reserve : Nat) : Outline → String
  | atom s => s
  | text points =>
    let s := literalPoints points
    let inner := if outermost then 1 else 0
    let pieces := textPieces (indent + inner) (reserve + inner) (splitLines points)
    if fits indent reserve s || pieces.length < 2 then s
    else joinPieces outermost (indent + inner) pieces
  | bytes contents =>
    let s := literalBytes contents
    let inner := if outermost then 1 else 0
    if fits indent reserve s || contents.length < 5 then s
    else
      joinPieces outermost (indent + inner) (bytePieces (indent + inner) (reserve + inner) contents)
  | group s opening closing extra parts =>
    if fits indent reserve s then s
    else
      let indent := indent + opening.length
      opening ++ stacked indent "," (layOutParts indent (reserve + extra) parts) ++ closing

/-- The parts of a group; behind all but the last one stands a comma. -/
def layOutParts (indent reserve : Nat) : List (String × Outline) → List String
  | [] => []
  | (label, part) :: rest =>
    let behind := if rest.isEmpty then reserve else 1
    (label ++ layOut false (indent + label.length) behind part) :: layOutParts indent reserve rest

end

/-- The lines of a literal. -/
def lines (o : Outline) : List String := (o.layOut true 0 0).splitOn "\n"

end Outline

end Rehearsal.Text
