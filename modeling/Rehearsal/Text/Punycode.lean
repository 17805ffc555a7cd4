/-!
# Names in ASCII

The code by which a name with any characters is written in letters, digits and hyphens: first its
characters of ASCII, then where the others go. They are taken in ascending order; the distance from
one to the next, counted over all characters and places between them, is a number of any length.
-/

namespace Rehearsal.Text.Punycode

/-- The digits below 26 are letters. -/
def digit (n : Nat) : Char := if n < 26 then Char.ofNat (97 + n) else Char.ofNat (22 + n)

/-- A digit below the threshold is the last one of its number. -/
def threshold (bias place : Nat) : Nat := max 1 (min 26 (place - bias))

/-- A number by its digits, the least one first. Every digit but the last takes something off, so a
number has fewer digits than `fuel` if it is less than that. -/
def digits (bias : Nat) : Nat → Nat → Nat → List Char
  | 0, _, _ => []
  | fuel + 1, place, n =>
    let t := threshold bias place
    if n < t then [digit n]
    else digit (t + (n - t) % (36 - t)) :: digits bias fuel (place + 36) ((n - t) / (36 - t))

/-- Divides until the number is small, and counts the divisions. -/
def shrink : Nat → Nat → Nat × Nat
  | 0, n => (n, 0)
  | fuel + 1, n =>
    if n ≤ 455 then (n, 0)
    else
      let (left, rounds) := shrink fuel (n / 35)
      (left, rounds + 1)

/-- The bias for the next number, after one that put in the last of `count` characters. -/
def adapt (first : Bool) (n count : Nat) : Nat :=
  let scaled := if first then n / 700 else n / 2
  let spread := scaled + scaled / count
  let (left, rounds) := shrink spread spread
  36 * rounds + 36 * left / (left + 38)

structure State where
  /-- The digits so far, in reverse. -/
  written : List Char
  /-- The distance since the last number. -/
  distance : Nat
  bias : Nat
  /-- How many characters have their place. -/
  count : Nat

/-- Passes a character on the way to those with number `n`, of which each one is written. -/
def pass (basic n : Nat) (s : State) (c : Nat) : State :=
  if c < n then { s with distance := s.distance + 1 }
  else if c = n then
    { written := (digits s.bias (s.distance + 1) 36 s.distance).reverse ++ s.written
      distance := 0
      bias := adapt (s.count == basic) s.distance (s.count + 1)
      count := s.count + 1 }
  else s

/-- Writes the characters with the given numbers, which ascend from `next` on. -/
def writeAll (cs : List Nat) (basic : Nat) : List Nat → Nat → State → State
  | [], _, s => s
  | n :: rest, next, s =>
    let ahead := { s with distance := s.distance + (n - next) * (s.count + 1) }
    let behind := cs.foldl (pass basic n) ahead
    writeAll cs basic rest (n + 1) { behind with distance := behind.distance + 1 }

/-- The code of a name that is given by its code points. -/
def encode (cs : List Nat) : List Char :=
  let basic := cs.filter (· < 128)
  let others := (cs.filter (128 ≤ ·)).mergeSort
  let start : State := { written := [], distance := 0, bias := 72, count := basic.length }
  basic.map Char.ofNat ++ (if basic.isEmpty then [] else ['-']) ++
    (writeAll cs basic.length others.eraseDups 128 start).written.reverse

/-! ## Reading -/

/-- What a digit counts; there are digits for all numbers below 36. -/
def digitValue? (c : Char) : Option Nat :=
  if 97 ≤ c.toNat ∧ c.toNat ≤ 122 then some (c.toNat - 97)
  else if 65 ≤ c.toNat ∧ c.toNat ≤ 90 then some (c.toNat - 65)
  else if 48 ≤ c.toNat ∧ c.toNat ≤ 57 then some (c.toNat - 22)
  else none

/-- A number of some weight at the front, and the digits behind it. -/
def number? (bias : Nat) : Nat → Nat → List Char → Option (Nat × List Char)
  | _, _, [] => none
  | place, weight, c :: rest => do
    let value ← digitValue? c
    let t := threshold bias place
    if value < t then return (value * weight, rest)
    else
      let (more, behind) ← number? bias (place + 36) (weight * (36 - t)) rest
      return (value * weight + more, behind)

/-- Puts characters among others; `next` is the place for the next one of number `n`. Each takes a
digit at least, so the number of digits is fuel enough. -/
def insertAll (first : Bool) (bias n next : Nat) :
    Nat → List Char → List Nat → Option (List Nat)
  | 0, _, done => some done
  | _ + 1, [], done => some done
  | fuel + 1, digits, done => do
    let (distance, rest) ← number? bias 36 1 digits
    let place := next + distance
    let count := done.length + 1
    let n := n + place / count
    if 0x10FFFF < n then none
    else
      let here := place % count
      insertAll false (adapt first distance count) n (here + 1) fuel rest
        (done.take here ++ n :: done.drop here)

/-- The code points of the name that a code stands for. -/
def decode? (cs : List Char) : Option (List Nat) :=
  let digits := (cs.reverse.takeWhile (· ≠ '-')).reverse
  let basic := (cs.take (cs.length - digits.length - 1)).map Char.toNat
  insertAll true 72 128 0 digits.length digits basic

end Rehearsal.Text.Punycode
