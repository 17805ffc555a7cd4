/-!
# The civil calendar

Dates of the Gregorian calendar, extended to all years from 1 on, counted in days from
1 January of year 1. A day lies in year `y` exactly when it is not before the first day of `y`
and before the first day of `y + 1`.
-/

namespace Rehearsal.Time

structure Date where
  year : Nat
  month : Nat
  day : Nat
deriving DecidableEq, Repr

def isLeap (year : Nat) : Bool :=
  year % 4 == 0 && (year % 100 != 0 || year % 400 == 0)

/-- Days before the first day of a year. -/
def daysBefore (year : Nat) : Nat :=
  let past := year - 1
  365 * past + past / 4 - past / 100 + past / 400

/-- The year of a day: an estimate by the mean length of a year, moved by one where it is off. -/
def yearOf (days : Nat) : Nat :=
  let guess := days * 400 / 146097 + 1
  if days < daysBefore guess then guess - 1
  else if daysBefore (guess + 1) ≤ days then guess + 1
  else guess

def monthLengths (leap : Bool) : List Nat :=
  [31, if leap then 29 else 28, 31, 30, 31, 30, 31, 31, 30, 31, 30, 31]

/-- The month and the day in it, given the months still ahead and the days left. -/
def monthAndDay (month : Nat) : List Nat → Nat → Nat × Nat
  | [], left => (month, left + 1)
  | length :: rest, left =>
    if left < length then (month, left + 1) else monthAndDay (month + 1) rest (left - length)

namespace Date

def ofDays (days : Nat) : Date :=
  let year := yearOf days
  let (month, day) := monthAndDay 1 (monthLengths (isLeap year)) (days - daysBefore year)
  ⟨year, month, day⟩

def toDays (d : Date) : Nat :=
  let whole := (monthLengths (isLeap d.year)).take (d.month - 1)
  daysBefore d.year + whole.foldl (· + ·) 0 + (d.day - 1)

/-- Years have at most four digits. -/
def isValid (d : Date) : Bool :=
  decide (1 ≤ d.year) && decide (d.year ≤ 9999) && decide (1 ≤ d.month) && decide (d.month ≤ 12) &&
    decide (1 ≤ d.day) && decide (d.day ≤ (monthLengths (isLeap d.year)).getD (d.month - 1) 0)

end Date

end Rehearsal.Time
