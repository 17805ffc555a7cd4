import Rehearsal.Number.Basic

/-!
# The visible generator

A reproducible source of numbers whose state is one integer. From seed `k` it emits the
magnitude of `k` and moves to half of `k` if that is whole, and to `3 * k + 1` otherwise.
-/

namespace Rehearsal

structure Generator where
  seed : Int := 6171
deriving DecidableEq, Repr

namespace Generator

/-- The largest integer that `randomInt` may give. -/
def intLimit : Nat := Nat.pow 2 63 - 1

def fractionSteps : Nat := Nat.pow 2 53

def successor (k : Int) : Int := if k % 2 = 0 then k / 2 else 3 * k + 1

def next (g : Generator) : Nat × Generator := (g.seed.natAbs, ⟨successor g.seed⟩)

/-- Two generators to go on with independently. -/
def split (g : Generator) : Generator × Generator := (⟨g.seed⟩, ⟨g.seed + 1⟩)

def range : Int × Int := (0, intLimit)

def randomInt (g : Generator) : Int × Generator :=
  let (value, after) := g.next
  ((value % (intLimit + 1) : Nat), after)

/-- The next `count` numbers. -/
def draws (g : Generator) : Nat → List Nat × Generator
  | 0 => ([], g)
  | count + 1 =>
    let (value, after) := g.next
    let (values, last) := after.draws count
    (value :: values, last)

end Generator

end Rehearsal
