import Rehearsal.Text.Utf8

/-!
# Wordings

What reads as a text: a text of characters, a verdict in the place of one, which reads as its name,
or a text that holds a surrogate. Wordings are compared, joined and measured by what they read as.
-/

namespace Rehearsal

inductive Verdict where
  | success
  | failure
deriving DecidableEq, Repr

namespace Verdict

def ofBool (holds : Bool) : Verdict := if holds then success else failure

def name : Verdict → String
  | success => "AssertSuccess"
  | failure => "AssertFailure"

/-- The name of the member, as opposed to the text that it reads as. -/
def label : Verdict → String
  | success => "SUCCESS"
  | failure => "FAILURE"

def display (v : Verdict) : String := "AssertionResult." ++ v.label

def literal (v : Verdict) : String :=
  "<" ++ v.display ++ ": " ++ Text.literal v.name ++ ">"

end Verdict

inductive Wording where
  | plain (s : String)
  | verdict (v : Verdict)
  /-- Code points of which at least one is a surrogate. -/
  | unpaired (points : List Text.CodePoint)
deriving DecidableEq, Repr

instance : Inhabited Wording := ⟨.plain ""⟩

instance : Coe String Wording := ⟨.plain⟩

namespace Wording

/-- The wording of a sequence of code points. -/
def ofPoints (points : List Text.CodePoint) : Wording :=
  match points.mapM Text.CodePoint.char? with
  | some chars => plain (String.ofList chars)
  | none => unpaired points

/-- The text that is read; a character that stands for none replaces every surrogate. -/
def contents : Wording → String
  | plain s => s
  | verdict v => v.name
  | unpaired points => String.ofList (points.map Text.CodePoint.shown)

def points : Wording → List Text.CodePoint
  | unpaired points => points
  | w => w.contents.toList.map .char

/-- The text, if all its code points are characters. -/
def text? : Wording → Option String
  | unpaired _ => none
  | w => some w.contents

/-- The wording as what it reads as. -/
def reading : Wording → Wording
  | verdict v => plain v.name
  | w => w

def same (a b : Wording) : Bool := decide (a.reading = b.reading)

/-- The order of the code points. -/
def less (a b : Wording) : Bool :=
  match a.text?, b.text? with
  | some s, some t => decide (s < t)
  | _, _ => decide (a.points.map Text.CodePoint.number < b.points.map Text.CodePoint.number)

def length (w : Wording) : Nat :=
  match w with
  | unpaired points => points.length
  | w => w.contents.length

def isEmpty (w : Wording) : Bool := w.length == 0

def append (a b : Wording) : Wording :=
  match a.text?, b.text? with
  | some s, some t => plain (s ++ t)
  | _, _ => ofPoints (a.points ++ b.points)

instance : Append Wording := ⟨append⟩

/-- Joins wordings with a text between any two of them. -/
def intercalate (separator : String) : List Wording → Wording
  | [] => plain ""
  | [w] => w.reading
  | w :: rest => w ++ plain separator ++ intercalate separator rest

/-- Every code point as a wording of its own. -/
def characters (w : Wording) : List Wording := w.points.map fun point => ofPoints [point]

def literal : Wording → String
  | plain s => Text.literal s
  | verdict v => v.literal
  | unpaired points => Text.literalPoints points

/-- The wording as it is written into a sentence. -/
def display : Wording → Wording
  | verdict v => plain v.display
  | w => w

/-- The bytes of the text. -/
def encode (w : Wording) : Except Text.EncodeFailure Text.Bytes :=
  match Text.firstSurrogates? 0 w.points with
  | some e => .error e
  | none => .ok (Text.encode w.contents)

end Wording

end Rehearsal
