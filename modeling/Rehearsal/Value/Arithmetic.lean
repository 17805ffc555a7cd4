import Rehearsal.Value.Order
import Rehearsal.Value.Slots

/-!
# Sums, differences and remainders of values

Numbers are added in the wider of their kinds; sequences of one kind are joined; durations move
times; summaries are combined. A result that is not a number is a new value, whose origin is given.
-/

namespace Rehearsal

namespace Number

def orOverflow (result : Option Number) : Outcome Number :=
  match result with
  | some n => .ok n
  | none => .error (.overflow .float)

def added (a b : Number) : Outcome Number := orOverflow (a.add? b)

def subtracted (a b : Number) : Outcome Number := orOverflow (a.sub? b)

def multiplied (a b : Number) : Outcome Number := orOverflow (a.mul? b)

/-- The remainder; an integer that has no double is reported before a divisor that is zero. -/
def remainder (a b : Number) : Outcome Number :=
  if a.isFloat || b.isFloat then
    match a.toFloat?, b.toFloat? with
    | some _, some _ =>
      if b.isZero then .error (.division .floatRemainder) else orOverflow (a.rem? b)
    | _, _ => .error (.overflow .float)
  else if b.isZero then .error (.division .integerRemainder)
  else orOverflow (a.rem? b)

end Number

namespace Value

def durationOf (micros : Int) : Outcome Value :=
  ((Time.Duration.checked micros).mapError .ofDuration).map duration

def moved (t : Time.Instant) (micros : Int) : Outcome Value :=
  match t.add? ⟨micros⟩ with
  | some u => .ok (instant u)
  | Option.none => .error (.overflow .date)

def addNumbers (origin : Origin) (x y : Value) : Option (Outcome Value) :=
  match x.number?, y.number? with
  | some a, some b => some ((a.added b).map (ofNumber origin))
  | _, _ => Option.none

/-- A summary from its parts; no count may be below zero. -/
def summaryOf (successes failures : Value) (failed : List Value) : Outcome Value := do
  let below ← successes.less (int 0)
  if below then .error (.rejected .summaryCount)
  else if ← failures.less (int 0) then .error (.rejected .summaryCount)
  else return summary successes failures failed

/-- A sum: of numbers, of two sequences of one kind, of times and durations, of summaries. -/
def add (origin : Origin) (x y : Value) : Outcome Value :=
  match x, y with
  | list xs, list ys => .ok (list (xs ++ ys))
  | tuple xs, tuple ys => .ok (tuple (xs ++ ys))
  | bytes a, bytes b => .ok (bytes (a ++ b))
  | text a, text b => .ok (text (a ++ b))
  | duration a, duration b => durationOf (a.micros + b.micros)
  | instant t, duration d | duration d, instant t => moved t d.micros
  | summary a b xs, summary c d ys => do
    let sum (m n : Value) : Outcome Value :=
      (addNumbers origin m n).getD (.error (.mismatch (.operands "+" m.kindName n.kindName)))
    let successes ← sum a c
    let failures ← sum b d
    summaryOf successes failures (xs ++ ys)
  | list _, y => .error (.mismatch (.concatenation "list" y.kindName))
  | tuple _, y => .error (.mismatch (.concatenation "tuple" y.kindName))
  | bytes _, y => .error (.mismatch (.bytesConcatenation y.kindName))
  | text _, y => .error (.mismatch (.concatenation "str" y.kindName))
  | x, y =>
    (addNumbers origin x y).getD (.error (.mismatch (.operands "+" x.kindName y.kindName)))

/-- A difference: of numbers, of sets, of durations and times. -/
def subtract (origin : Origin) (x y : Value) : Outcome Value :=
  match x, y with
  | set xs, set ys | set xs, frozenset ys => .ok (setOf (xs.filter fun v => !ys.any (alike v)))
  | frozenset xs, set ys | frozenset xs, frozenset ys =>
    .ok (frozensetOf (xs.filter fun v => !ys.any (alike v)))
  | duration a, duration b => durationOf (a.micros - b.micros)
  | instant t, duration d => moved t (-d.micros)
  | instant s, instant t =>
    match s.universal?, t.universal? with
    | some a, some b => durationOf (a - b)
    | Option.none, Option.none => durationOf (s.wall - t.wall)
    | _, _ => .error (.mismatch .subtrahendZones)
  | x, y =>
    match x.number?, y.number? with
    | some a, some b => (a.subtracted b).map (ofNumber origin)
    | _, _ => .error (.mismatch (.operands "-" x.kindName y.kindName))

def remainder (origin : Origin) (x y : Value) : Outcome Value :=
  match x.number?, y.number? with
  | some a, some b => (a.remainder b).map (ofNumber origin)
  | _, _ => .error (.mismatch (.operands "%" x.kindName y.kindName))

end Value

end Rehearsal
