/-!
# Text patterns

Sequences of characters and bracketed sets, each with an optional repetition, that may be tied to
the start and to the end of the text. A pattern that is not tied is searched for. The end
is also in front of a final newline.
-/

namespace Rehearsal.Schema

/-- The characters that one piece of a pattern takes. -/
inductive CharSet where
  | any
  | ranges (negated : Bool) (bounds : List (Char × Char))
deriving DecidableEq, Repr

def CharSet.allows (c : Char) : CharSet → Bool
  | any => c ≠ '\n'
  | ranges negated bounds =>
    (bounds.any fun (low, high) => decide (low ≤ c) && decide (c ≤ high)) != negated

/-- A set of characters and how often it may be taken. -/
structure Piece where
  set : CharSet
  least : Nat := 1
  most : Option Nat := some 1
deriving DecidableEq, Repr

structure Pattern where
  fromStart : Bool
  pieces : List Piece
  toEnd : Bool
deriving DecidableEq, Repr

namespace Pattern

/-- The members of a bracketed set up to its closing bracket, and what follows it. -/
def bounds : List Char → List (Char × Char) × List Char
  | [] => ([], [])
  | ']' :: rest => ([], rest)
  | [c] => ([(c, c)], [])
  | low :: '-' :: ']' :: rest => ([(low, low), ('-', '-')], rest)
  | low :: '-' :: high :: rest =>
    let (more, behind) := bounds rest
    ((low, high) :: more, behind)
  | c :: rest =>
    let (more, behind) := bounds rest
    ((c, c) :: more, behind)

/-- One set and what follows it. -/
def charSet : List Char → CharSet × List Char
  | [] => (.any, [])
  | '.' :: rest => (.any, rest)
  | '\\' :: c :: rest => (.ranges false [(c, c)], rest)
  | '[' :: '^' :: rest => (bounds rest).map (.ranges true) id
  | '[' :: rest => (bounds rest).map (.ranges false) id
  | c :: rest => (.ranges false [(c, c)], rest)

def repetition (set : CharSet) : List Char → Piece × List Char
  | '*' :: rest => (⟨set, 0, none⟩, rest)
  | '+' :: rest => (⟨set, 1, none⟩, rest)
  | '?' :: rest => (⟨set, 0, some 1⟩, rest)
  | rest => (⟨set, 1, some 1⟩, rest)

/-- The pieces, and whether the text must end behind them; each takes at least one character of
the pattern, so its length is fuel enough. -/
def readPieces : Nat → List Char → List Piece × Bool
  | 0, _ => ([], false)
  | _ + 1, [] => ([], false)
  | _ + 1, ['$'] => ([], true)
  | fuel + 1, cs =>
    let (set, behind) := charSet cs
    let (piece, rest) := repetition set behind
    (readPieces fuel rest).map (piece :: ·) id

def parse (s : String) : Pattern :=
  let (fromStart, body) := match s.toList with
    | '^' :: rest => (true, rest)
    | cs => (false, cs)
  let (parts, toEnd) := readPieces body.length body
  ⟨fromStart, parts, toEnd⟩

/-- Whether the pieces can be taken from the front of the text. -/
def matchesFront (toEnd : Bool) : List Piece → List Char → Bool
  | [], cs => !toEnd || cs.isEmpty || cs == ['\n']
  | piece :: rest, cs =>
    let run := (cs.takeWhile fun c => piece.set.allows c).length
    (List.range (run + 1)).any fun count =>
      decide (piece.least ≤ count) && piece.most.all (decide <| count ≤ ·) &&
        matchesFront toEnd rest (cs.drop count)

/-- Whether the pieces can be taken from the front or from a later place. -/
def matchesSomewhere (toEnd : Bool) (parts : List Piece) : List Char → Bool
  | [] => matchesFront toEnd parts []
  | c :: rest => matchesFront toEnd parts (c :: rest) || matchesSomewhere toEnd parts rest

def isMatch (p : Pattern) (s : String) : Bool :=
  if p.fromStart then matchesFront p.toEnd p.pieces s.toList
  else matchesSomewhere p.toEnd p.pieces s.toList

end Pattern

end Rehearsal.Schema
