/-!
# Rounding a quotient to an integer

A half goes to the even neighbour where an exact quotient has to become a whole number of anything
but milliseconds, whose halves go up.
-/

namespace Rehearsal.Number

/-- The integer nearest to `num / den`, an exact half going to the even one. -/
def roundHalfEven (num den : Nat) : Nat :=
  let low := num / den
  let twice := 2 * (num % den)
  if twice < den then low
  else if den < twice then low + 1
  else low + low % 2

/-- The integer nearest to `num / den`; a half goes up. -/
def roundHalfUp (num : Int) (den : Nat) : Int := (2 * num + den) / (2 * den)

end Rehearsal.Number
