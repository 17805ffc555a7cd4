import Rehearsal.Number.Text

/-!
# Durations

A duration is a whole number of microseconds. Its texts split it into days, seconds of a day
and microseconds of a second, of which only the days may be negative.
-/

namespace Rehearsal.Time

def secondMicros : Nat := 1000000

def dayMicros : Nat := 86400 * secondMicros

structure Duration where
  micros : Int
deriving DecidableEq, Repr

/-- Why a number of seconds is no duration. -/
inductive DurationFailure where
  | notANumber
  | infinite
  /-- The whole days, when they exceed nine digits. -/
  | tooLong (days : Int)
deriving DecidableEq, Repr

namespace Duration

def zero : Duration := ⟨0⟩

def days (d : Duration) : Int := d.micros.fdiv dayMicros

def seconds (d : Duration) : Nat := (d.micros.fmod dayMicros / secondMicros).toNat

def microseconds (d : Duration) : Nat := (d.micros.fmod dayMicros % secondMicros).toNat

def ofParts (days seconds micros : Int) : Duration :=
  ⟨(days * 86400 + seconds) * secondMicros + micros⟩

/-- A duration holds at most nine digits of days. -/
def checked (micros : Int) : Except DurationFailure Duration :=
  let d : Duration := ⟨micros⟩
  if d.days.natAbs ≤ 999999999 then .ok d else .error (.tooLong d.days)

/-- Whole microseconds of a magnitude in seconds. The fraction of a second is first scaled to
a double, then the sum is rounded, a half going to the even neighbour. -/
def microsOfSeconds (d : Number.Dyadic) : Nat :=
  let (num, den) := d.ratio
  let scaled := Number.read (Number.nearest false (num % den * secondMicros) den)
  match scaled with
  | .finite s =>
    let (part, unit) := s.ratio
    Number.roundHalfEven (num / den * secondMicros * unit + part) unit
  | _ => num / den * secondMicros

/-- The duration nearest to a number of seconds. -/
def ofSeconds (x : Float) : Except DurationFailure Duration :=
  match Number.read x with
  | .nan => .error .notANumber
  | .infinite _ => .error .infinite
  | .finite d =>
    let micros : Int := microsOfSeconds d
    checked (if d.negative then -micros else micros)

/-- The duration in seconds, as the nearest double. -/
def totalSeconds (d : Duration) : Float :=
  Number.nearest (decide (d.micros < 0)) d.micros.natAbs secondMicros

def pad2 (n : Nat) : String := Number.padLeft 2 (toString n)

def pad6 (n : Nat) : String := Number.padLeft 6 (toString n)

/-- For instance `1 day, 0:00:02.000003`. -/
def display (d : Duration) : String :=
  let days :=
    if d.days = 0 then ""
    else toString d.days ++ (if d.days.natAbs = 1 then " day, " else " days, ")
  let clock := toString (d.seconds / 3600) ++ ":" ++ pad2 (d.seconds / 60 % 60) ++ ":" ++
    pad2 (d.seconds % 60)
  days ++ clock ++ (if d.microseconds = 0 then "" else "." ++ pad6 d.microseconds)

/-- Parts that are zero are left out. -/
def literal (d : Duration) : String :=
  let part (name : String) (n : Int) := if n = 0 then [] else [name ++ "=" ++ toString n]
  let parts := part "days" d.days ++ part "seconds" d.seconds ++ part "microseconds" d.microseconds
  let body := if parts.isEmpty then "0" else ", ".intercalate parts
  "datetime.timedelta(" ++ body ++ ")"

end Duration

end Rehearsal.Time
