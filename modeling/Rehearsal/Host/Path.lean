/-!
# Paths

A path is a list of names below the working directory or below the root. Empty names and names
for the same place are left out.
-/

namespace Rehearsal

structure Path where
  /-- The slashes in front: none below the working directory, one or two below the root. -/
  root : String
  names : List String
deriving DecidableEq, Repr

namespace Path

def isAbsolute (p : Path) : Bool := !p.root.isEmpty

/-- Two slashes in front stay, any other number of them counts as one. -/
def rootOf (s : String) : String :=
  match (s.toList.takeWhile (· = '/')).length with
  | 0 => ""
  | 2 => "//"
  | _ => "/"

def ofText (s : String) : Path :=
  ⟨rootOf s, (s.splitOn "/").filter fun name => name ≠ "" && name ≠ "."⟩

def text (p : Path) : String :=
  let names := "/".intercalate p.names
  if p.isAbsolute then p.root ++ names else if names.isEmpty then "." else names

end Path

end Rehearsal
