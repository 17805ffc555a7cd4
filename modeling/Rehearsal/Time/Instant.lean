import Rehearsal.Time.Calendar
import Rehearsal.Time.Duration

/-!
# Instants

An instant is a wall-clock reading, with or without the offset at which the clock runs. Adding
a duration moves the reading and keeps the offset; a reading outside the years 1 to 9999 does
not exist.
-/

namespace Rehearsal.Time

/-- Microseconds in the years 1 to 9999. -/
def wallLimit : Nat := 3652059 * dayMicros

/-- A distance from universal time, shorter than a day. -/
structure Offset where
  micros : Int
  /-- Whether its literal counts seconds, as for zones that were read from a text or a number. -/
  counted : Bool := false
  short : micros.natAbs < dayMicros := by decide
deriving DecidableEq

structure Instant where
  /-- Microseconds since the start of year 1, as the clock on the wall shows them. -/
  wall : Nat
  offset : Option Offset
  wall_lt : wall < wallLimit := by decide
deriving DecidableEq

namespace Offset

def utc : Offset := { micros := 0 }

def ofMicros? (micros : Int) : Option Offset :=
  if h : micros.natAbs < dayMicros then some { micros, short := h } else none

/-- The same distance, with a literal that counts seconds. -/
def inSeconds (o : Offset) : Offset := { o with counted := true }

def duration (o : Offset) : Duration := ⟨o.micros⟩

/-- For instance `+05:30`; seconds and microseconds only where there are any. -/
def text (o : Offset) : String :=
  let n := o.micros.natAbs
  let seconds := n / secondMicros
  (if o.micros < 0 then "-" else "+") ++ Duration.pad2 (seconds / 3600) ++ ":" ++
    Duration.pad2 (seconds / 60 % 60) ++
    (if n % (60 * secondMicros) = 0 then "" else ":" ++ Duration.pad2 (seconds % 60)) ++
    (if n % secondMicros = 0 then "" else "." ++ Duration.pad6 (n % secondMicros))

/-- Whole seconds, towards the past. -/
def seconds (o : Offset) : Int := o.micros.fdiv secondMicros

/-- For instance `-05:30`, or a letter for universal time; parts below a minute are left out. -/
def minutesText (o : Offset) : String :=
  let n := o.seconds.natAbs
  if n = 0 then "Z"
  else
    (if o.seconds < 0 then "-" else "+") ++ Duration.pad2 (n / 3600) ++ ":" ++
      Duration.pad2 (n / 60 % 60)

def literal (o : Offset) : String :=
  if o.counted then "TzInfo(" ++ toString o.seconds ++ ")"
  else if o.micros = 0 then "datetime.timezone.utc"
  else "datetime.timezone(" ++ o.duration.literal ++ ")"

end Offset

namespace Instant

def ofMicros? (wall : Int) (offset : Option Offset) : Option Instant :=
  if h : 0 ≤ wall ∧ wall.toNat < wallLimit then some ⟨wall.toNat, offset, h.2⟩ else none

/-- Midnight of 17 November 1858 in universal time, where the simulated clock starts. -/
def julianEpoch : Instant :=
  ⟨Date.toDays ⟨1858, 11, 17⟩ * dayMicros, some Offset.utc, by decide⟩

def add? (t : Instant) (d : Duration) : Option Instant :=
  ofMicros? (t.wall + d.micros) t.offset

def date (t : Instant) : Date := Date.ofDays (t.wall / dayMicros)

def hour (t : Instant) : Nat := t.wall / secondMicros / 3600 % 24

def minute (t : Instant) : Nat := t.wall / secondMicros / 60 % 60

def second (t : Instant) : Nat := t.wall / secondMicros % 60

def microsecond (t : Instant) : Nat := t.wall % secondMicros

/-- Microseconds of universal time, for an instant with an offset. -/
def universal? (t : Instant) : Option Int :=
  t.offset.map fun o => t.wall - o.micros

/-- Readings with an offset are compared in universal time; one with and one without an offset
are never the same. -/
def same (s t : Instant) : Bool :=
  match s.universal?, t.universal? with
  | some a, some b => a == b
  | none, none => s.wall == t.wall
  | _, _ => false

def dateText (t : Instant) : String :=
  let d := t.date
  Number.padLeft 4 (toString d.year) ++ "-" ++ Duration.pad2 d.month ++ "-" ++ Duration.pad2 d.day

def clockText (t : Instant) : String :=
  Duration.pad2 t.hour ++ ":" ++ Duration.pad2 t.minute ++ ":" ++ Duration.pad2 t.second ++
    (if t.microsecond = 0 then "" else "." ++ Duration.pad6 t.microsecond)

def offsetText (t : Instant) : String := (t.offset.map Offset.text).getD ""

/-- For instance `2020-01-01T10:20:30.000005+00:00`. -/
def text (t : Instant) : String := t.dateText ++ "T" ++ t.clockText ++ t.offsetText

def display (t : Instant) : String := t.dateText ++ " " ++ t.clockText ++ t.offsetText

/-- Seconds are left out when they and the microseconds are zero. -/
def literal (t : Instant) : String :=
  let d := t.date
  let clock :=
    if t.microsecond ≠ 0 then [t.hour, t.minute, t.second, t.microsecond]
    else if t.second ≠ 0 then [t.hour, t.minute, t.second]
    else [t.hour, t.minute]
  let numbers := [d.year, d.month, d.day] ++ clock
  let zone := (t.offset.map fun o => ", tzinfo=" ++ o.literal).getD ""
  "datetime.datetime(" ++ ", ".intercalate (numbers.map toString) ++ zone ++ ")"

end Instant

end Rehearsal.Time
