import Rehearsal.Number.Digits
import Rehearsal.Number.Text
import Rehearsal.Wording

/-!
# Plain values and their one text

A plain value is what a JSON document can hold. Its canonical text sorts the entries of every
object by key, writes no blanks and keeps characters outside ASCII as they are, so it does not
depend on the order in which an object was filled. The text is a sequence of code points; it has
bytes unless one of them is a surrogate.
-/

namespace Rehearsal

inductive Json where
  | null
  | bool (b : Bool)
  | int (n : Int)
  | float (x : Float)
  | text (s : Wording)
  | array (items : List Json)
  | object (entries : List (Wording × Json))
deriving Inhabited

namespace Json

/-- Sets a key: in its old place if an entry has that text, else behind all entries. -/
def put (key : Wording) (value : Json) : List (Wording × Json) → List (Wording × Json)
  | [] => [(key, value)]
  | (k, v) :: rest =>
    if k.same key then (k, value) :: rest else (k, v) :: put key value rest

/-- An object with the given texts as keys. -/
def ofFields (fields : List (String × Json)) : Json :=
  object (fields.map fun (name, value) => (.plain name, value))

/-- Seven characters have an escape of their own or stand for themselves; the other controls are
escaped by number. -/
def escape (c : Char) : List Char :=
  if c = '"' then ['\\', '"']
  else if c = '\\' then ['\\', '\\']
  else if c = '\n' then ['\\', 'n']
  else if c = '\r' then ['\\', 'r']
  else if c = '\t' then ['\\', 't']
  else if c.toNat = 12 then ['\\', 'f']
  else if c.toNat = 8 then ['\\', 'b']
  else if c.toNat < 32 then '\\' :: 'u' :: Text.hexDigits 4 c.toNat
  else [c]

/-- The code points of a text of characters. -/
def pointsOf (s : String) : List Text.CodePoint := s.toList.map .char

def escapePoint : Text.CodePoint → List Text.CodePoint
  | .char c => (escape c).map .char
  | .surrogate n => [.surrogate n]

def quote (w : Wording) : List Text.CodePoint :=
  .char '"' :: w.points.flatMap escapePoint ++ [.char '"']

/-- Entries in the order of their names; entries of one name keep their order. -/
def sortByName {α : Type} (entries : List (Wording × α)) : List (Wording × α) :=
  entries.mergeSort fun a b => !b.1.less a.1

/-- Parts with commas between them, in brackets. -/
def bracketed (first last : Char) (parts : List (List Text.CodePoint)) : List Text.CodePoint :=
  .char first :: [.char ','].intercalate parts ++ [.char last]

def writeObject (entries : List (Wording × List Text.CodePoint)) : List Text.CodePoint :=
  bracketed '\x7b' '\x7d' ((sortByName entries).map fun e => quote e.1 ++ .char ':' :: e.2)

mutual

/-- The canonical text. -/
def write : Json → List Text.CodePoint
  | null => pointsOf "null"
  | bool true => pointsOf "true"
  | bool false => pointsOf "false"
  | int n => pointsOf (toString n)
  | float x => pointsOf (Number.canonicalLayout.write x)
  | text s => quote s
  | array items => bracketed '[' ']' (writeAll items)
  | object entries => writeObject (writeEntries entries)

def writeAll : List Json → List (List Text.CodePoint)
  | [] => []
  | item :: rest => write item :: writeAll rest

/-- Every entry with its value written. -/
def writeEntries : List (Wording × Json) → List (Wording × List Text.CodePoint)
  | [] => []
  | (key, value) :: rest => (key, write value) :: writeEntries rest

end

mutual

/-- Whether a plain value holds an integer with too many digits to be written. -/
def holdsLong : Json → Bool
  | int n => Number.exceedsDigitLimit n
  | array items => anyHoldsLong items
  | object entries => anyEntryHoldsLong entries
  | _ => false

def anyHoldsLong : List Json → Bool
  | [] => false
  | item :: rest => holdsLong item || anyHoldsLong rest

def anyEntryHoldsLong : List (Wording × Json) → Bool
  | [] => false
  | (_, value) :: rest => holdsLong value || anyEntryHoldsLong rest

end

/-- Whether the text of the first value does not come after that of the second one. -/
def notAfter (a b : Json) : Bool :=
  decide (¬ b.write.map Text.CodePoint.number < a.write.map Text.CodePoint.number)

/-- Plain values in the order of their texts; equal texts keep their order. -/
def sortByText (items : List Json) : List Json := items.mergeSort notAfter

end Json

end Rehearsal
