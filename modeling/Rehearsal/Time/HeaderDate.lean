import Rehearsal.Number.Digits
import Rehearsal.Text.Blank
import Rehearsal.Time.Calendar

/-!
# Dates in headers

A header gives a date as in `Wed, 09 Feb 1994 22:23:32 GMT`. More loosely the day of the week and
the clock may be missing, the month may be a number, the year may be short, hyphens or slashes may
stand between the parts, and a zone may be given by its distance from universal time.
-/

namespace Rehearsal.Time.HeaderDate

open Number (isDigit ofDigits)

/-- What a text says where a date is wanted. -/
inductive Reading where
  /-- Seconds since the start of 1970. -/
  | seconds (n : Int)
  | unknown
  /-- A date in the first form with a month that there is not, or a year of too many digits. -/
  | broken
deriving DecidableEq, Repr

def lowerLetter (c : Char) : Char := if 65 ≤ c.toNat ∧ c.toNat ≤ 90 then c.toLower else c

def lowered (cs : List Char) : String := String.ofList (cs.map lowerLetter)

def isSmallLetter (c : Char) : Bool := decide (97 ≤ c.toNat) && decide (c.toNat ≤ 122)

def isLetter (c : Char) : Bool := isSmallLetter (lowerLetter c)

def isWordPart (c : Char) : Bool := isLetter c || isDigit c || c = '_'

/-- Blanks of ASCII. -/
def isGap (c : Char) : Bool := c = ' ' || decide (9 ≤ c.toNat) && decide (c.toNat ≤ 13)

def months : List String :=
  ["jan", "feb", "mar", "apr", "may", "jun", "jul", "aug", "sep", "oct", "nov", "dec"]

/-- The number of a month by its name. -/
def month? (name : List Char) : Option Nat :=
  let word := lowered name
  if months.contains word then some (months.idxOf word + 1) else none

/-- Seconds of universal time; the day may be past the end of its month, the hour may be the one
after the last one, and the second may be a leap second. -/
def seconds? (year month day hour minute second : Nat) : Option Int :=
  if 1970 ≤ year && decide (1 ≤ month) && decide (month ≤ 12) && decide (1 ≤ day) &&
      decide (day ≤ 31) && decide (hour ≤ 24) && decide (minute ≤ 59) && decide (second ≤ 61) then
    let days := Date.toDays ⟨year, month, 1⟩ + (day - 1) - daysBefore 1970
    some (((days * 24 + hour) * 60 + minute) * 60 + second)
  else none

def readingOf (seconds : Option Int) : Reading := (seconds.map .seconds).getD .unknown

/-! ## The strict form -/

/-- The characters that may stand at each place of the strict form. -/
def strictShape : List (Char → Bool) :=
  let exactly (s : String) : List (Char → Bool) := s.toList.map fun c => (· == c)
  [("SMTWF".toList.contains ·), isSmallLetter, isSmallLetter] ++ exactly ", " ++
    [isDigit, isDigit] ++ exactly " " ++
    [("JFMASOND".toList.contains ·), isSmallLetter, isSmallLetter] ++ exactly " " ++
    [isDigit, isDigit, isDigit, isDigit] ++ exactly " " ++ [isDigit, isDigit] ++ exactly ":" ++
    [isDigit, isDigit] ++ exactly ":" ++ [isDigit, isDigit] ++ exactly " GMT"

def isStrict (cs : List Char) : Bool :=
  cs.length == strictShape.length && (strictShape.zip cs).all fun (fits, c) => fits c

def readStrict (cs : List Char) : Reading :=
  let number (first count : Nat) : Nat := ofDigits ((cs.drop first).take count)
  match month? ((cs.drop 8).take 3) with
  | some month =>
    readingOf (seconds? (number 12 4) month (number 5 2) (number 17 2) (number 20 2) (number 23 2))
  | none => .broken

/-! ## The loose form -/

def weekdays : List String := ["sun", "mon", "tue", "wed", "thu", "fri", "sat"]

/-- The rest behind the name of a day of the week. -/
def behindWeekday (cs : List Char) : List Char :=
  if weekdays.contains (lowered (cs.take 3)) then
    let behind := cs.dropWhile isLetter
    (if behind.head? = some ',' then behind.drop 1 else behind).dropWhile isGap
  else cs

/-- A run of characters of one kind, at least one and at most as many as given, and the rest. -/
def run? (kind : Char → Bool) (limit : Nat) (cs : List Char) : Option (List Char × List Char) :=
  let found := cs.takeWhile kind
  if found.isEmpty || limit < found.length then none else some (found, cs.drop found.length)

/-- The rest behind what stands between two parts of a day: gaps, or one mark. -/
def behindGap? (marks : List Char) (cs : List Char) : Option (List Char) :=
  match cs with
  | c :: rest =>
    if isGap c then some (rest.dropWhile isGap)
    else if marks.contains c then some rest
    else none
  | [] => none

/-- Two digits, and the rest. -/
def pair? : List Char → Option (Nat × List Char)
  | a :: b :: rest => if isDigit a && isDigit b then some (ofDigits [a, b], rest) else none
  | _ => none

/-- Hour, minute and second, and the rest. -/
def clock? (cs : List Char) : Option ((Nat × Nat × Nat) × List Char) := do
  let (hour, rest) ← run? isDigit 2 (← behindGap? [':'] cs)
  let (minute, rest) ← if rest.head? = some ':' then pair? (rest.drop 1) else none
  match if rest.head? = some ':' then pair? (rest.drop 1) else none with
  | some (second, rest) => return ((ofDigits hour, minute, second), rest)
  | none => return ((ofDigits hour, minute, 0), rest)

/-- Whether half a day is named, and no zone. -/
def isHalfDay (cs : List Char) : Bool :=
  match cs.map lowerLetter with
  | c :: 'm' :: rest => (c = 'a' || c = 'p') && !rest.head?.any isWordPart
  | _ => false

/-- The text of a zone, letters or two to four digits with a sign, and the rest. -/
def zone? (cs : List Char) : Option (List Char × List Char) :=
  match run? isLetter cs.length cs with
  | some found => if isHalfDay cs then none else some found
  | none =>
    let sign := cs.take 1 |>.filter fun c => c = '+' || c = '-'
    let digits := (cs.drop sign.length).take 4 |>.takeWhile isDigit
    if digits.length < 2 then none
    else some (sign ++ digits, cs.drop (sign.length + digits.length))

/-- The rest behind a remark in brackets. -/
def behindRemark (cs : List Char) : List Char :=
  match cs with
  | '(' :: rest =>
    match run? isWordPart rest.length rest with
    | some (_, ')' :: behind) => behind.dropWhile isGap
    | _ => cs
  | _ => cs

/-- The distance of a zone from universal time in seconds. -/
def offset? (zone : List Char) : Option Int :=
  let digits := zone.filter isDigit
  let hours := if digits.length = 3 then 1 else 2
  let distance : Int := ofDigits (digits.take hours) * 3600 + ofDigits (digits.drop hours) * 60
  if zone.any isLetter then
    if ["gmt", "utc", "ut", "z"].contains (lowered zone) then some 0 else none
  else some (if zone.head? = some '-' then -distance else distance)

/-- A year below 1000 lies in the hundred years around this one. -/
def fullYear (thisYear year : Nat) : Nat :=
  if 1000 ≤ year then year
  else
    let guess := year + (thisYear - thisYear % 100)
    if 50 + year < thisYear % 100 then guess + 100
    else if 50 + thisYear % 100 < year then guess - 100
    else guess

def monthNumber? (word : List Char) : Option Nat :=
  (month? word).or ((Number.ofGroups? word).filter fun n => decide (1 ≤ n) && decide (n ≤ 12))

/-- Day, month, year, clock and zone as they stand in a text. -/
structure Parts where
  day : Nat
  month : List Char
  year : List Char
  clock : Nat × Nat × Nat := (0, 0, 0)
  zone : List Char := ['Z']

def parts? (cs : List Char) : Option Parts := do
  let (day, rest) ← run? isDigit 2 cs
  let rest ← behindGap? ['-', '/'] rest
  let (month, rest) ← run? isWordPart rest.length rest
  let rest ← behindGap? ['-', '/'] rest
  let (year, rest) ← run? isDigit rest.length rest
  let (clock, rest) := (clock? rest).getD ((0, 0, 0), rest)
  let rest := rest.dropWhile isGap
  let (zone, rest) := (zone? rest).getD (['Z'], rest)
  if (behindRemark (rest.dropWhile isGap)).isEmpty then
    return ⟨ofDigits day, month, year, clock, zone⟩
  else none

def readLoose (thisYear : Nat) (cs : List Char) : Reading :=
  match parts? cs with
  | none => .unknown
  | some p =>
    if Number.digitLimit < p.year.length then .broken
    else if 9999 < ofDigits p.year then .unknown
    else readingOf do
      let month ← monthNumber? p.month
      let (hour, minute, second) := p.clock
      let seconds ←
        seconds? (fullYear thisYear (ofDigits p.year)) month p.day hour minute second
      return seconds - (← offset? p.zone)

/-- Reads a date; short years are taken near the given one. -/
def read (thisYear : Nat) (text : List Char) : Reading :=
  let line := if text.getLast? = some '\n' then text.dropLast else text
  if isStrict line then readStrict line
  else readLoose thisYear (behindWeekday (text.dropWhile Text.isSpace))

end Rehearsal.Time.HeaderDate
