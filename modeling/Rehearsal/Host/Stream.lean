import Rehearsal.Wording

/-!
# Text streams

A stream is split at its position, which reading and writing share. Writing replaces as many
characters as it writes, as far as there are any.
-/

namespace Rehearsal

open Text (CodePoint)

structure Stream where
  /-- What lies before the position, nearest character first. -/
  before : List CodePoint := []
  /-- What is left to read. -/
  rest : List CodePoint := []
deriving DecidableEq, Repr

namespace Stream

def ofText (s : String) : Stream := ⟨[], s.toList.map .char⟩

def contents (s : Stream) : Wording := .ofPoints (s.before.reverse ++ s.rest)

/-- One character; none at the end. -/
def readChar (s : Stream) : Option (CodePoint × Stream) :=
  match s.rest with
  | [] => none
  | point :: rest => some (point, ⟨point :: s.before, rest⟩)

/-- The line that starts here without its end; none at the end. -/
def readLine (s : Stream) : Option (List CodePoint × Stream) :=
  if s.rest.isEmpty then none
  else
    let line := s.rest.takeWhile (· ≠ .char '\n')
    let taken := line.length + 1
    some (line, ⟨(s.rest.take taken).reverse ++ s.before, s.rest.drop taken⟩)

def write (text : List CodePoint) (s : Stream) : Stream :=
  ⟨text.reverse ++ s.before, s.rest.drop text.length⟩

end Stream

end Rehearsal
