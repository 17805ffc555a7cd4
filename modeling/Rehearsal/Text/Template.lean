import Rehearsal.Number.Digits

/-!
# Templates

A template has places for values. A place starts with a percent sign, may have flags, a width, a
precision and a size, and ends with the letter of a form; two percent signs stand for one. Here
a single integer is all there is to fill the places with; a star in the place of a width or of a
precision takes a value as well. Characters are given by their numbers.
-/

namespace Rehearsal.Text.Template

/-- Why a template is not filled with one integer. -/
inductive Failure where
  /-- No place takes the integer. -/
  | surplus
  | shortage
  /-- A place names its value. -/
  | mapping
  | incomplete
  /-- A letter of no form, where it stands, and whether a digit of a width or of a precision stands
  in front of it. -/
  | letter (number place : Nat) (behindDigit : Bool)
  /-- A form that is not made for integers. -/
  | form
  | width
  | precision
  | room
deriving DecidableEq, Repr

/-- The letters of forms, and those of them that integers do not have. -/
structure Forms where
  letters : List Nat
  refused : List Nat

def codes (s : String) : List Nat := s.toList.map Char.toNat

/-- The forms in texts. -/
def textForms : Forms := ⟨codes "sradiouxXeEfFgGc", []⟩

/-- The forms in byte strings. -/
def byteForms : Forms := ⟨codes "sbradiouxXeEfFgGc", codes "sb"⟩

def isDigit (n : Nat) : Bool := decide (48 ≤ n) && decide (n ≤ 57)

/-- The width or the precision in front: whether the integer is taken afterwards, and the rest. -/
def measure (limit : Nat) (long : Failure) (taken : Bool) :
    List Nat → Except Failure (Bool × Nat × List Nat)
  | 42 :: rest => if taken then .error .shortage else .ok (true, 0, rest)
  | ns =>
    let digits := ns.takeWhile isDigit
    let n := Number.ofDigits (digits.map Char.ofNat)
    if limit < n then .error long else .ok (taken, n, ns.drop digits.length)

/-- A precision stands behind a point. -/
def precision (taken : Bool) : List Nat → Except Failure (Bool × List Nat)
  | 46 :: rest => do
    let (taken, _, behind) ← measure 2147483647 .precision taken rest
    return (taken, behind)
  | ns => .ok (taken, ns)

/-- The rest behind one letter of a size. -/
def behindSize : List Nat → List Nat
  | n :: rest => if (codes "hlL").contains n then rest else n :: rest
  | [] => []

/-- The widest place that there is room for. -/
def widthRoom : Nat := Nat.pow 2 33

/-- What follows a place that takes the integer, of a template of `size` characters. -/
def place (forms : Forms) (size : Nat) (taken : Bool) (ns : List Nat) :
    Except Failure (List Nat) := do
  if ns.head? = some 40 then throw .mapping
  let behindFlags := ns.dropWhile (codes "-+ #0").contains
  let (taken, width, behindWidth) ← measure 9223372036854775807 .width taken behindFlags
  let (taken, behindPrecision) ← precision taken behindWidth
  match behindSize behindPrecision with
  | [] => throw .incomplete
  | n :: rest =>
    if taken then throw .shortage
    if forms.refused.contains n then throw .form
    if !forms.letters.contains n then
      let measures := behindFlags.take (behindFlags.length - rest.length - 1)
      throw (.letter n (size - rest.length - 1) (measures.getLast?.any isDigit))
    if widthRoom < width then throw .room
    return rest

/-- Whether the integer is taken by the places of the rest of a template. -/
def fill (forms : Forms) (size : Nat) : Nat → Bool → List Nat → Except Failure Bool
  | 0, taken, _ => .ok taken
  | _ + 1, taken, [] => .ok taken
  | fuel + 1, taken, 37 :: 37 :: rest => fill forms size fuel taken rest
  | fuel + 1, taken, 37 :: ns => do fill forms size fuel true (← place forms size taken ns)
  | fuel + 1, taken, _ :: rest => fill forms size fuel taken rest

/-- The reason why a template does not take one integer. -/
def failure? (forms : Forms) (ns : List Nat) : Option Failure :=
  match fill forms ns.length ns.length false ns with
  | .ok true => none
  | .ok false => some .surplus
  | .error f => some f

end Rehearsal.Text.Template
