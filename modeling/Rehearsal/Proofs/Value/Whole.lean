import Rehearsal.Value.Arithmetic

/-!
# Integers among the values

Integers and truth values are numbers on whole positions. They are compared as integers, and the
remainder of an integer by a positive one is that of the integers.
-/

namespace Rehearsal

namespace Number

/-- Truth values and integers are compared as integers. -/
theorem compare_whole {m n : Number} {a b : Int} (hm : m.position? = some ⟨0, a, 1⟩)
    (hn : n.position? = some ⟨0, b, 1⟩) : m.compare n = some (Ord.compare a b) := by
  simp [compare, hm, hn, Position.compare]

theorem isZero_int (n : Int) : (int n).isZero = decide (n = 0) := by
  rw [isZero, same, compare_whole rfl rfl, Bool.eq_iff_iff]
  simp

theorem remainder_int (n : Int) {k : Int} (pos : 0 < k) :
    (int n).remainder (int k) = .ok (int (n % k)) := by
  have nonzero : (int k).isZero = false := by
    rw [isZero_int]
    exact decide_eq_false (by omega)
  have whole : (int n).rem? (int k) = some (int (n.fmod k)) := rfl
  simp only [remainder, isFloat, nonzero, whole, orOverflow, Bool.or_self, Bool.false_eq_true,
    ↓reduceIte]
  rw [Int.fmod_eq_emod_of_nonneg n (Int.le_of_lt pos)]

end Number

namespace Value

variable {x y : Value} {a b : Int}

theorem number_of_integer {v : Value} (h : v.integer? = some a) :
    ∃ n, v.number? = some n ∧ n.position? = some ⟨0, a, 1⟩ := by
  cases v with
  | bool c =>
    cases h
    exact ⟨_, rfl, rfl⟩
  | int n =>
    cases h
    exact ⟨_, rfl, rfl⟩
  | _ => cases h

theorem compare_integers (r : Relation) (hx : x.integer? = some a) (hy : y.integer? = some b) :
    compare r x y = .ok (r.holds (Ord.compare a b)) := by
  obtain ⟨m, hm, pm⟩ := number_of_integer hx
  obtain ⟨n, hn, pn⟩ := number_of_integer hy
  have numbers : compare r x y = .ok ((m.compare n).any r.holds) := by
    cases x <;> cases hx <;> cases hm <;> cases y <;> cases hy <;> cases hn <;>
      simp only [compare, number?]
  rw [numbers, Number.compare_whole pm pn, Option.any_some]

theorem greater_integers (hx : x.integer? = some a) (hy : y.integer? = some b) :
    compare .greater x y = .ok (decide (b < a)) := by
  have order : (Ord.compare a b == .gt) = decide (b < a) := by
    rw [Bool.eq_iff_iff]
    simp [Int.compare_eq_gt]
  rw [compare_integers _ hx hy, Relation.holds, order]

theorem less_integers (hx : x.integer? = some a) (hy : y.integer? = some b) :
    compare .less x y = .ok (decide (a < b)) := by
  have order : (Ord.compare a b == .lt) = decide (a < b) := by
    rw [Bool.eq_iff_iff]
    simp [Int.compare_eq_lt]
  rw [compare_integers _ hx hy, Relation.holds, order]

end Value

end Rehearsal
