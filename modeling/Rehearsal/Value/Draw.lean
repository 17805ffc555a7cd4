import Rehearsal.Text.Template
import Rehearsal.Value.Arithmetic

/-!
# Draws between values

A generator draws between any two values that have an order: numbers give numbers, and whatever has
an order but no differences of numbers fails in the step that it does not support. Seeds may be
numbers of any kind; integers are those of `Rehearsal.Generator`.
-/

namespace Rehearsal

namespace Number

/-- The place of a drawn number in the unit interval. -/
def fraction (drawn : Number) : Outcome Number := do
  let part ← drawn.remainder (.int Generator.fractionSteps)
  match part.div? (.int (Generator.fractionSteps - 1 : Nat)) with
  | some x => return .float x
  | none => .error (.overflow .float)

end Number

namespace Value

def isDouble : Value → Bool
  | float _ | nan _ => true
  | _ => false

/-- Two values in their order. -/
def ordered (a b : Value) : Outcome (Value × Value) := do
  if ← compare .greater a b then return (b, a) else return (a, b)

/-- A whole step from the low value on, given a drawn number. -/
def stepBetween (low high drawn : Value) : Outcome Value := do
  let width ← high.subtract [] low
  let count ← width.add [] (.int 1)
  let step ← drawn.remainder [] count
  low.add [] step

/-- The point of the interval at a fraction of its width. -/
def pointBetween (low high : Value) (fraction : Number) : Outcome Value := do
  match low.number?, high.number? with
  | some a, some b =>
    let width ← b.subtracted a
    let shift ← width.multiplied fraction
    return ofNumber [] (← a.added shift)
  | _, _ => .error (.mismatch (.operands "-" high.kindName low.kindName))

/-- What a drawn number gives between two values in order. -/
def between (low high drawn : Value) : Outcome Value :=
  match low, high, drawn with
  | int a, int b, int n => .ok (int (a + n % (b - a + 1)))
  | _, _, _ =>
    if low.isDouble || high.isDouble then
      match drawn.number? with
      | some n => do pointBetween low high (← n.fraction)
      | Option.none => .error (.mismatch (.operands "%" drawn.kindName "int"))
    else stepBetween low high drawn

/-- A text as the seed is a template to be filled with one integer, which is no number to go on
with. -/
def templateError (f : Text.Template.Failure) : Error :=
  match f with
  | .surplus => .mismatch .formatting
  | .shortage => .mismatch .formattedValues
  | .mapping => .mismatch .formattedMapping
  | .form => .mismatch .formattedBytes
  | .incomplete => .rejected .incompleteFormat
  | .letter number place _ =>
    let shown := if 31 ≤ number ∧ number ≤ 126 then Char.ofNat number else '?'
    .rejected (.formatLetter shown number place)
  | .width => .rejected .formatWidth
  | .precision => .rejected (.formatPrecision "precision")
  | .room => .memory

/-- The same for a byte string, whose letters are shown as they are; a byte that is no character is
only shown behind a digit. -/
def byteTemplateError (f : Text.Template.Failure) : Error :=
  match f with
  | .surplus => .mismatch .byteFormatting
  | .letter number place behindDigit =>
    if number < 128 || behindDigit then .rejected (.formatLetter (Char.ofNat number) number place)
    else .rejected .formatByte
  | .precision => .rejected (.formatPrecision "prec")
  | f => templateError f

/-- Why a text is no seed. -/
def textSeedError (w : Wording) : Error :=
  match Text.Template.failure? Text.Template.textForms (w.points.map Text.CodePoint.number) with
  | some f => templateError f
  | Option.none => .mismatch (.concatenation "str" "int")

/-- Why a byte string is no seed. -/
def byteSeedError (bs : Text.Bytes) : Error :=
  match Text.Template.failure? Text.Template.byteForms (bs.map UInt8.toNat) with
  | some f => byteTemplateError f
  | Option.none => .mismatch (.bytesConcatenation "int")

/-- The number that a seed emits, and the seed after it. -/
def nextSeed (seed : Value) : Outcome (Value × Value) :=
  let ofInt (k : Int) : Value × Value :=
    let (n, after) := Generator.next ⟨k⟩
    (int n, int after.seed)
  let ofFloat (x : Float) : Value × Value :=
    let even := Number.floatRemainder x 2 == 0
    (Value.ofFloat [] x.abs, Value.ofFloat [] (if even then x / 2 else 3 * x + 1))
  match seed with
  | bool b => .ok (ofInt (Number.ofBool b))
  | int k => .ok (ofInt k)
  | float x => .ok (ofFloat x)
  | nan _ => .ok (ofFloat Number.notANumber)
  | text w => .error (textSeedError w)
  | bytes bs => .error (byteSeedError bs)
  | v => .error (.mismatch (.operands "%" v.kindName "int"))

/-- A drawn number of any size, and the seed after it. -/
def randomInt (seed : Value) : Outcome (Value × Value) := do
  let (drawn, after) ← seed.nextSeed
  return (← drawn.remainder [] (int (Generator.intLimit + 1 : Nat)), after)

/-- A draw between two values, whichever of them is the lower one, and the seed after it. -/
def randomBetween (a b seed : Value) : Outcome (Value × Value) := do
  let (low, high) ← ordered a b
  let (drawn, after) ← seed.nextSeed
  return (← between low high drawn, after)

/-- Two seeds to go on with independently. -/
def splitSeed (seed : Value) : Outcome (Value × Value) := do
  return (seed, ← seed.add [] (int 1))

/-- The next `count` numbers, and the seed after them. -/
def drawAll (seed : Value) : Nat → Outcome (List Value × Value)
  | 0 => .ok ([], seed)
  | count + 1 => do
    let (value, after) ← seed.nextSeed
    let (values, last) ← after.drawAll count
    return (value :: values, last)

/-- As many numbers as a value counts, which has to be an integer that is not negative. -/
def draws (seed count : Value) : Outcome (List Value × Value) := do
  if ← compare .less count (int 0) then .error (.rejected .drawCount)
  else match count.integer? with
    | some n => seed.drawAll n.toNat
    | Option.none => .error (.mismatch (.integer count.kindName))

end Value

namespace Generator

/-- A draw between two values with the seed of a generator. -/
def between (a b : Value) (g : Generator) : Outcome (Value × Generator) := do
  let (low, high) ← Value.ordered a b
  let (drawn, after) := g.next
  return (← Value.between low high (.int drawn), after)

end Generator

end Rehearsal
