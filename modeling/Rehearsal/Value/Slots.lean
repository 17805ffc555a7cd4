import Rehearsal.Value.Equality

/-!
# The order of sets

A set keeps its members in a table of slots and is gone through slot by slot. The hash of a member
decides where the search for a free slot starts and how it goes on. Numbers, durations, instants of
universal time, empty texts and what is made of them have hashes that follow from what they are; a
set with any other member is gone through in the order in which its members came.
-/

namespace Rehearsal

namespace Number

/-- The prime by which the hashes of finite numbers are residues. -/
def hashModulus : Nat := Nat.pow 2 61 - 1

/-- The inverse of a power of two: by the modulus, sixty-one doublings come back to one. -/
def halvings (power : Nat) : Nat := Nat.pow 2 ((61 - power.log2 % 61) % 61)

/-- Equal numbers have equal hashes, whatever their kinds. No hash is minus one. -/
def hash? (n : Number) : Option Int :=
  n.position?.map fun p =>
    if p.rank = 0 then
      let residue : Int := (p.num.natAbs * halvings p.den % hashModulus : Nat)
      let hash := if p.num < 0 then -residue else residue
      if hash = -1 then -2 else hash
    else p.rank * 314159

end Number

/-- Slots with the members in them and their hashes as words. Their number is a power of two. -/
abbrev SlotTable (α : Type) := List (Option (Nat × α))

namespace SlotTable

variable {α : Type}

def empty (size : Nat) : SlotTable α := List.replicate size none

def isFree (t : SlotTable α) (place : Nat) : Bool := (t.getD place none).isNone

/-- The first free slot of ten in a row, or the slot itself where the table has not as many. -/
def freeInRow? (t : SlotTable α) (place : Nat) : Option Nat :=
  let row := if place + 9 < t.length then List.range 10 else [0]
  (row.map (place + ·)).find? t.isFree

/-- The free slot that a search finds; `rest` is the part of the hash that has not been used. -/
def search (t : SlotTable α) : Nat → Nat → Nat → Nat
  | 0, _, place => place
  | fuel + 1, rest, place =>
    match t.freeInRow? place with
    | some free => free
    | none => t.search fuel (rest / 32) ((place * 5 + 1 + rest / 32) % t.length)

/-- Once the hash is used up the search comes to every slot. -/
def put (t : SlotTable α) (member : Nat × α) : SlotTable α :=
  t.set (t.search (t.length + 13) member.1 (member.1 % t.length)) (some member)

def members (t : SlotTable α) : List (Nat × α) := t.filterMap id

/-- A table of the smallest size above four times the number of members, and at least of eight. -/
def regrown (t : SlotTable α) : SlotTable α :=
  let size := max 8 (Nat.pow 2 ((4 * t.members.length).log2 + 1))
  t.members.foldl put (empty size)

/-- The table grows when three fifths of its slots are taken. -/
def add (t : SlotTable α) (member : Nat × α) : SlotTable α :=
  let filled := t.put member
  if filled.members.length * 5 < (filled.length - 1) * 3 then filled else filled.regrown

end SlotTable

namespace HashWord

/-- A hash as a machine word. -/
def ofInt (n : Int) : UInt64 := UInt64.ofNat (n % (Nat.pow 2 64 : Nat)).toNat

/-- Mixes the hash of an item into that of the items before it. -/
def mix (before item : UInt64) : UInt64 :=
  let sum := before + item * 14029467366897019727
  ((sum <<< 31) ||| (sum >>> 33)) * 11400714785074694791

/-- The hash of items in their order. -/
def ofSequence (items : List UInt64) : UInt64 :=
  let mixed := items.foldl mix 2870177450012600261
  let ending : UInt64 := 2870177450012600261 ^^^ 3527539
  let hash := mixed + (UInt64.ofNat items.length ^^^ ending)
  if hash = ofInt (-1) then 1546275796 else hash

def scatter (hash : UInt64) : UInt64 :=
  let blurred : UInt64 := hash ^^^ (hash <<< 16)
  (blurred ^^^ (89869747 : UInt64)) * 3644798167

/-- The hash of items whatever their order. -/
def ofMembers (items : List UInt64) : UInt64 :=
  let joined := items.foldl (fun hash item => hash ^^^ scatter item) 0
  let counted := joined ^^^ (UInt64.ofNat (items.length + 1) * 1927868237)
  let hash := (counted ^^^ (counted >>> 11) ^^^ (counted >>> 25)) * 69069 + 907133923
  if hash = ofInt (-1) then 590923713 else hash

end HashWord

/-- The hash of a number as a word. -/
def Number.hashWord? (n : Number) : Option UInt64 := n.hash?.map HashWord.ofInt

namespace HashWord

/-- The hash of a text or of bytes with so many units; only an empty one has a hash of its own. -/
def ofUnits? (count : Nat) : Option UInt64 := if count = 0 then some 0 else none

def ofDuration? (d : Time.Duration) : Option UInt64 :=
  let parts : List Int := [d.days, d.seconds, d.microseconds]
  (parts.mapM fun n => (Number.int n).hashWord?).map ofSequence

/-- An instant of universal time counts from the day before the first one. -/
def ofInstant? (t : Time.Instant) : Option UInt64 :=
  t.universal?.bind fun micros => ofDuration? ⟨micros + Time.dayMicros⟩

def ofHeaders? (headers : List (String × String)) : Option UInt64 :=
  let hash (header : String × String) : Option UInt64 := do
    return ofSequence [← ofUnits? header.1.length, ← ofUnits? header.2.length]
  (headers.mapM hash).map ofSequence

end HashWord

mutual

/-- The hash of a value, if it follows from what the value is. -/
def Value.hashWord? : Value → Option UInt64
  | .text w => HashWord.ofUnits? w.length
  | .bytes bs => HashWord.ofUnits? bs.length
  | .tuple items => (Value.hashWords? items).map HashWord.ofSequence
  | .frozenset items => (Value.hashWords? items).map HashWord.ofMembers
  | .duration d => HashWord.ofDuration? d
  | .instant t => HashWord.ofInstant? t
  | .success v | .failure v | .generator v => v.hashWord?.map fun hash => HashWord.ofSequence [hash]
  | .handle h => (HashWord.ofUnits? h.name.length).map fun hash => HashWord.ofSequence [hash]
  | .session id => (HashWord.ofUnits? id.length).map fun hash => HashWord.ofSequence [hash]
  | .summary successes failures failed => do
    let items ← Value.hashWords? failed
    return HashWord.ofSequence
      [← successes.hashWord?, ← failures.hashWord?, HashWord.ofSequence items]
  | .response ⟨status, body, headers, url⟩ => do
    return HashWord.ofSequence
      [← status.hashWord?, ← HashWord.ofUnits? body.length, ← HashWord.ofHeaders? headers,
       ← url.hashWord?]
  | v => v.number?.bind Number.hashWord?

def Value.hashWords? : List Value → Option (List UInt64)
  | [] => some []
  | x :: xs => do return (← x.hashWord?) :: (← Value.hashWords? xs)

end

namespace Value

/-- Different members in the order in which a set of them is gone through. -/
def inSlots (members : List Value) : List Value :=
  match members.mapM fun v => v.hashWord?.map fun hash => (hash.toNat, v) with
  | some hashed => ((hashed.foldl SlotTable.add (SlotTable.empty 8)).members).map (·.2)
  | Option.none => members

def setOf (items : List Value) : Value := set (inSlots (distinct items))

def frozensetOf (items : List Value) : Value := frozenset (inSlots (distinct items))

end Value

end Rehearsal
