import Rehearsal.Number.Basic
import Rehearsal.Settings.Numeral
import Rehearsal.Settings.Violation
import Rehearsal.Text.Utf8
import Rehearsal.Time.Instant

/-!
# Start times in settings

A start time is written as a date, or as a date and a time of day with an optional zone, or as a
number of seconds since 1970. Large numbers count milliseconds.
-/

namespace Rehearsal.Settings

open Time
open Number (isDigit ofDigits)

/-- A number of two digits. -/
def twoDigits? : List Char → Option Nat
  | a :: b :: _ => if isDigit a && isDigit b then some (ofDigits [a, b]) else none
  | _ => none

/-- The date in the first ten characters. -/
def date? (cs : List Char) : Except DateReason Date := do
  if cs.length < 10 then throw .tooShort
  if !(cs.take 4).all isDigit then throw .year
  if cs[4]? ≠ some '-' then throw .separator
  let some month := twoDigits? (cs.drop 5) | throw .month
  if cs[7]? ≠ some '-' then throw .separator
  let some day := twoDigits? (cs.drop 8) | throw .day
  let date : Date := ⟨ofDigits (cs.take 4), month, day⟩
  if month < 1 || 12 < month then throw .monthRange
  if day < 1 || (monthLengths (isLeap date.year)).getD (month - 1) 0 < day then throw .dayRange
  return date

/-- Microseconds of a fraction of a second; further digits are cut off. -/
def fractionMicros (digits : List Char) : Nat :=
  ofDigits ((digits ++ List.replicate 6 '0').take 6)

/-- Seconds and their fraction behind hours and minutes, and what follows them. -/
def secondsPart? : List Char → Option (Nat × List Char)
  | ':' :: rest => do
    let second ← twoDigits? rest
    if 59 < second then none
    else match rest.drop 2 with
      | mark :: more =>
        if mark = '.' || mark = ',' then
          let digits := more.takeWhile isDigit
          if digits.isEmpty then none
          else
            some (second * secondMicros + fractionMicros digits, more.drop digits.length)
        else some (second * secondMicros, mark :: more)
      | [] => some (second * secondMicros, [])
  | rest => some (0, rest)

/-- Microseconds of the day, and what follows the time. -/
def clock? (cs : List Char) : Option (Nat × List Char) := do
  let hour ← twoDigits? cs
  if cs[2]? ≠ some ':' then none
  let minute ← twoDigits? (cs.drop 3)
  if 23 < hour || 59 < minute then none
  let (micros, rest) ← secondsPart? (cs.drop 5)
  return ((hour * 60 + minute) * 60 * secondMicros + micros, rest)

def signedZone? (negative : Bool) (cs : List Char) : Option Offset := do
  let hour ← twoDigits? cs
  let digits := match cs.drop 2 with
    | ':' :: rest => rest
    | rest => rest
  let minute ← twoDigits? digits
  if digits.length ≠ 2 || 59 < minute then none
  let micros : Int := (hour * 60 + minute) * 60 * secondMicros
  Offset.ofMicros? (if negative then -micros else micros)

/-- The units of one byte in which lengths and places are counted here. -/
def units (bytes : Text.Bytes) : List Char := bytes.map fun b => Char.ofNat b.toNat

/-- The typographic minus sign. -/
def minusSign : List Char := units (Text.encodeChar (Char.ofNat 0x2212))

/-- The zone that the characters name; no characters name no zone. -/
def zone? : List Char → Option (Option Offset)
  | [] => some none
  | ['Z'] | ['z'] => some (some Offset.utc.inSeconds)
  | sign :: rest =>
    if sign = '+' then (signedZone? false rest).map fun o => some o.inSeconds
    else if sign = '-' then (signedZone? true rest).map fun o => some o.inSeconds
    else match minusSign.isPrefixOf (sign :: rest) with
      | true => (signedZone? true (rest.drop 2)).map fun o => some o.inSeconds
      | false => none

/-- Midnight of a date moved by some microseconds; there is no year zero. -/
def onDate (date : Date) (micros : Nat) (zone : Option Offset) : Except DateReason Instant :=
  if date.year = 0 then .error .yearZero
  else match Instant.ofMicros? (date.toDays * dayMicros + micros) zone with
    | some t => .ok t
    | none => .error .dayRange

/-- A date and a time of day. -/
def dateAndClock? (cs : List Char) : Option (Except DateReason Instant) := do
  let date ← (date? cs).toOption
  let separator ← cs[10]?
  if !(['T', 't', ' ', '_'].contains separator) then none
  let (micros, rest) ← clock? (cs.drop 11)
  return onDate date micros (← zone? rest)

/-- Above this magnitude a number counts milliseconds. -/
def secondsLimit : Nat := 20000000000

/-- Midnight of 1 January 1970, in microseconds. -/
def unixEpoch : Int := Date.toDays ⟨1970, 1, 1⟩ * dayMicros

/-- The length of the year before the first one. -/
def yearZeroMicros : Int := 366 * dayMicros

/-- The time some microseconds after 1970. -/
def ofUnixMicros (micros : Int) : Except DateReason Instant :=
  let wall := unixEpoch + micros
  match Instant.ofMicros? wall (some Offset.utc.inSeconds) with
  | some t => .ok t
  | none =>
    .error (if 0 ≤ wall then .tooLarge else if -yearZeroMicros ≤ wall then .yearZero else .tooSmall)

def ofTimestamp (n : Int) : Except DateReason Instant :=
  ofUnixMicros (if n.natAbs ≤ secondsLimit then n * secondMicros else n * 1000)

/-- The microseconds of a double. Past the limit it counts milliseconds, whose thousandths are taken
exactly; otherwise whole seconds are taken off towards the past, and the rest is multiplied as a
double. A half goes up. -/
def floatMicros (x : Float) (d : Number.Dyadic) : Int :=
  if 20000000000 < x || x < -20000000000 then
    let (num, den) := d.signed
    Number.roundHalfUp (num * 1000) den
  else
    let whole := x.floor
    match Number.read whole, Number.read ((x - whole) * 1000000) with
    | .finite seconds, .finite part =>
      let (num, den) := part.signed
      seconds.truncate * secondMicros + Number.roundHalfUp num den
    | _, _ => 0

def ofFloatTimestamp (x : Float) : Except DateReason Instant :=
  match Number.read x with
  | .nan => .error .notANumber
  | .infinite negative => .error (if negative then .tooSmall else .tooLarge)
  | .finite d => ofUnixMicros (floatMicros x d)

/-- The largest number of a timestamp that is written as a text. -/
def timestampLimit : Nat := Nat.pow 2 63 - 1

/-- A number in digits with an optional sign. With a point it may have a fraction and an exponent;
then a number that stands for no time counts as a misspelt date. -/
def timestampText? (cs : List Char) : Option (Except DateReason Instant) :=
  let body := match cs with
    | '-' :: rest | '+' :: rest => rest
    | _ => cs
  let negative := cs.head? = some '-'
  let whole := body.takeWhile isDigit
  let n := ofDigits whole
  match body.drop whole.length with
  | [] =>
    if whole.isEmpty || decide (timestampLimit < n) then none
    else some (ofTimestamp (if negative then -(n : Int) else n))
  | '.' :: _ =>
    if timestampLimit < n * 10 then none
    else match (decimal? negative body).map ofFloatTimestamp with
      | some (.ok t) => some (.ok t)
      | some (.error .yearZero) => some (.error .yearZero)
      | _ => none
  | _ => none

/-- A date alone is midnight without a zone. -/
def instantOfBytes (bytes : Text.Bytes) : Except DateReason Instant :=
  let cs := units bytes
  match dateAndClock? cs with
  | some result => result
  | none =>
    match timestampText? cs with
    | some result => result
    | none => do
      let date ← date? cs
      if 10 < cs.length then .error .extra else onDate date 0 none

end Rehearsal.Settings
