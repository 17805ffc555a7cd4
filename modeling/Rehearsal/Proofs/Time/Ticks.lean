import Rehearsal.Time.Instant

/-!
# Ticks of a clock

A number of equal ticks moves an instant as far as one duration. All ticks go in one direction, so
an instant that can be reached by some of them can be reached by fewer.
-/

namespace Rehearsal.Time

/-- As long as `n` durations one after the other. -/
def Duration.times (d : Duration) (n : Nat) : Duration := ⟨n * d.micros⟩

namespace Instant

theorem ofMicros?_eq_some {wall : Int} {offset : Option Offset} {t : Instant} :
    ofMicros? wall offset = some t ↔ (t.wall : Int) = wall ∧ t.offset = offset := by
  unfold ofMicros?
  split
  · next h =>
    rw [Option.some.injEq]
    constructor
    · rintro rfl
      exact ⟨Int.toNat_of_nonneg h.1, rfl⟩
    · rintro ⟨rfl, rfl⟩
      rfl
  · next h =>
    refine ⟨fun ht => absurd ht (by simp), ?_⟩
    rintro ⟨rfl, rfl⟩
    exact absurd ⟨Int.natCast_nonneg _, t.wall_lt⟩ h

/-- Adding a duration moves the reading by it and keeps the offset. -/
theorem add?_eq_some {t u : Instant} {d : Duration} :
    t.add? d = some u ↔ (u.wall : Int) = t.wall + d.micros ∧ u.offset = t.offset :=
  ofMicros?_eq_some

theorem add?_zero (t : Instant) (d : Duration) : t.add? (d.times 0) = some t := by
  rw [add?_eq_some]
  simp [Duration.times]

/-- Some ticks and then some more are as many ticks at once. -/
theorem add?_times_add {t u : Instant} {d : Duration} {m : Nat} (h : t.add? (d.times m) = some u)
    (n : Nat) : u.add? (d.times n) = t.add? (d.times (m + n)) := by
  obtain ⟨hw, ho⟩ := add?_eq_some.mp h
  have moved : (u.wall : Int) + (d.times n).micros = t.wall + (d.times (m + n)).micros := by
    simp only [hw, Duration.times, Int.natCast_add, Int.add_mul, Int.add_assoc]
  rw [add?, moved, ho, add?]

theorem add?_times_succ {t u : Instant} {d : Duration} (h : t.add? d = some u) (n : Nat) :
    u.add? (d.times n) = t.add? (d.times (n + 1)) := by
  have once : d.times 1 = d := by simp [Duration.times]
  rw [← once] at h
  rw [add?_times_add h, Nat.add_comm]

/-- Ticks all go one way, so fewer of them lead nowhere that does not exist. -/
theorem add?_fewer {t u : Instant} {d : Duration} {m n : Nat} (h : t.add? (d.times n) = some u)
    (hm : m ≤ n) : ∃ v, t.add? (d.times m) = some v := by
  obtain ⟨hw, _⟩ := add?_eq_some.mp h
  obtain ⟨k, rfl⟩ := Nat.exists_eq_add_of_le hm
  have whole : (u.wall : Int) = t.wall + (m * d.micros + k * d.micros) := by
    rw [hw, Duration.times, Int.natCast_add, Int.add_mul]
  have within : 0 ≤ (t.wall : Int) + m * d.micros ∧
      ((t.wall : Int) + m * d.micros).toNat < wallLimit := by
    have ht := t.wall_lt
    have hu := u.wall_lt
    cases Int.le_total 0 d.micros with
    | inl forward =>
      have hm := Int.mul_nonneg (Int.natCast_nonneg m) forward
      have hk := Int.mul_nonneg (Int.natCast_nonneg k) forward
      omega
    | inr backward =>
      have hm := Int.mul_nonpos_of_nonneg_of_nonpos (Int.natCast_nonneg m) backward
      have hk := Int.mul_nonpos_of_nonneg_of_nonpos (Int.natCast_nonneg k) backward
      omega
  exact ⟨⟨_, t.offset, within.2⟩, ofMicros?_eq_some.mpr ⟨Int.toNat_of_nonneg within.1, rfl⟩⟩

end Instant

end Rehearsal.Time
