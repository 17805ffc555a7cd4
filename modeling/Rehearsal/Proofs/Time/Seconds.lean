import Rehearsal.Proofs.Number.Nearest
import Rehearsal.Time.Duration

/-!
# The duration of a number of seconds

A number of seconds above zero has a duration if it stays below a thousand million days, and the
duration is longer than nothing if the number is more than half a microsecond. Both bounds are those
of the exact number, although its fraction goes through a double on the way: no double is so close
above half a microsecond that it would be rounded down to it.
-/

namespace Rehearsal

namespace Number

theorem mantissa_lt {x : Float} {d : Dyadic} (h : read x = .finite d) : d.mantissa < 2 ^ 53 := by
  have rest : x.toBits.toNat % fractionLimit < 2 ^ 52 := Nat.mod_lt _ (by decide)
  have limit : fractionLimit = 2 ^ 52 := rfl
  unfold read readWord at h
  dsimp only at h
  split at h
  · split at h <;> cases h
  · split at h
    · cases h
      dsimp only
      omega
    · cases h
      dsimp only
      omega

namespace Dyadic

theorem ratio_cases (d : Dyadic) :
    d.ratio.2 = 1 ∨ ∃ k, d.ratio = (d.mantissa, 2 ^ k) := by
  unfold ratio
  cases d.exponent with
  | ofNat e => exact .inl rfl
  | negSucc e => exact .inr ⟨e + 1, rfl⟩

theorem ratio_pos (d : Dyadic) : 0 < d.ratio.2 := by
  obtain one | ⟨k, hk⟩ := d.ratio_cases
  · rw [one]
    decide
  · rw [hk]
    exact Nat.two_pow_pos k

end Dyadic

end Number

namespace Time.Duration

open Number

/-- The doubles around half a microsecond are multiples of `2 ^ -73`, so one above it exceeds it by
more than half the distance of doubles around a half. -/
theorem above_half {m k : Nat} (hm : m < 2 ^ 53) (h : 2 ^ k < 2000000 * m) :
    (2 ^ 53 + 1) * 2 ^ k < m * secondMicros * 2 ^ 54 := by
  have short : k ≤ 73 := by
    apply Nat.le_of_not_lt
    intro long
    have power : 2 ^ 74 ≤ 2 ^ k := Nat.pow_le_pow_right (by decide) long
    omega
  obtain ⟨j, hj⟩ := Nat.exists_eq_add_of_le' short
  have shifted : 2 ^ 73 < 2000000 * (m * 2 ^ j) := by
    calc 2 ^ 73 = 2 ^ k * 2 ^ j := by rw [hj, Nat.pow_add, Nat.mul_comm]
      _ < 2000000 * m * 2 ^ j := Nat.mul_lt_mul_of_pos_right h (Nat.two_pow_pos j)
      _ = 2000000 * (m * 2 ^ j) := Nat.mul_assoc ..
  have apart : (2 ^ 53 + 1) * 2 ^ 73 < m * 2 ^ j * 1000000 * 2 ^ 54 := by omega
  apply Nat.lt_of_mul_lt_mul_right (a := 2 ^ j)
  calc (2 ^ 53 + 1) * 2 ^ k * 2 ^ j = (2 ^ 53 + 1) * 2 ^ 73 := by
        rw [hj, Nat.pow_add 2 j k, Nat.mul_assoc, Nat.mul_comm (2 ^ k)]
    _ < m * 2 ^ j * 1000000 * 2 ^ 54 := apart
    _ = m * secondMicros * 2 ^ 54 * 2 ^ j := by
        rw [secondMicros]
        ac_rfl

/-- Such a distance is not lost when 53 digits are kept. -/
theorem lt_twice_round {num den k : Nat} (hd : 0 < den) (digits : 53 ≤ k)
    (apart : (2 ^ 53 + 1) * den < num * 2 ^ 54) : 2 ^ k < 2 * roundHalfEven (num * 2 ^ k) den := by
  obtain ⟨j, rfl⟩ := Nat.exists_eq_add_of_le digits
  have near : 2 * (num * 2 ^ (53 + j)) ≤ 2 * (roundHalfEven (num * 2 ^ (53 + j)) den * den) + den :=
    (roundHalfEven_near hd).1
  have above : 2 ^ (53 + j) * den + den < 2 * (num * 2 ^ (53 + j)) := by
    calc 2 ^ (53 + j) * den + den ≤ 2 ^ (53 + j) * den + 2 ^ j * den :=
          Nat.add_le_add_left (Nat.le_mul_of_pos_left _ (Nat.two_pow_pos j)) _
      _ = (2 ^ 53 + 1) * (2 ^ j * den) := by
          rw [Nat.pow_add, Nat.mul_assoc, Nat.add_mul (2 ^ 53), Nat.one_mul]
      _ = (2 ^ 53 + 1) * den * 2 ^ j := by
          rw [Nat.mul_assoc, Nat.mul_comm (2 ^ j)]
      _ < num * 2 ^ 54 * 2 ^ j := Nat.mul_lt_mul_of_pos_right apart (Nat.two_pow_pos j)
      _ = 2 * (num * 2 ^ (53 + j)) := by
          rw [Nat.pow_add, Nat.pow_succ 2 53]
          ac_rfl
  apply Nat.lt_of_mul_lt_mul_right (a := den)
  rw [Nat.mul_assoc]
  omega

section Micros

variable (d : Number.Dyadic)

/-- The definition, at the double that the fraction is read as. -/
theorem microsOfSeconds_of_read {s : Number.Dyadic}
    (hs : read (nearest false (d.ratio.1 % d.ratio.2 * secondMicros) d.ratio.2) = .finite s) :
    microsOfSeconds d =
      roundHalfEven (d.ratio.1 / d.ratio.2 * secondMicros * s.ratio.2 + s.ratio.1) s.ratio.2 := by
  -- A match on a reading of no known word sends the kernel into the word's digits, so the
  -- definition is opened unapplied and its reader is taken to be any function.
  obtain ⟨reader, same⟩ : ∃ f, f = Number.read := ⟨_, rfl⟩
  generalize opened : microsOfSeconds = micros
  delta microsOfSeconds at opened
  subst opened
  rw [← same] at hs ⊢
  simp only [hs]

/-- Whole seconds are exact; the fraction is rounded to a double and to a whole number. -/
theorem microsOfSeconds_eq :
    ∃ k, Scale (d.ratio.1 % d.ratio.2 * secondMicros) d.ratio.2 k ∧
      microsOfSeconds d = roundHalfEven (d.ratio.1 / d.ratio.2 * secondMicros * 2 ^ k +
        roundHalfEven (d.ratio.1 % d.ratio.2 * secondMicros * 2 ^ k) d.ratio.2) (2 ^ k) := by
  have unit := d.ratio_pos
  have small : d.ratio.1 % d.ratio.2 * secondMicros < d.ratio.2 * 2 ^ 52 := by
    have rest := Nat.mod_lt d.ratio.1 unit
    rw [secondMicros]
    omega
  obtain ⟨k, s, scale, hs, _, hu, value⟩ := read_nearest unit small
  refine ⟨k, scale, ?_⟩
  rw [microsOfSeconds_of_read d hs]
  apply roundHalfEven_congr hu (Nat.two_pow_pos k)
  rw [Nat.add_mul, Nat.add_mul, value, Nat.mul_right_comm]

theorem le_microsOfSeconds : d.ratio.1 / d.ratio.2 * secondMicros ≤ microsOfSeconds d := by
  obtain ⟨k, _, micros⟩ := microsOfSeconds_eq d
  rw [micros]
  exact le_roundHalfEven (Nat.two_pow_pos k) (Nat.le_add_right _ _)

theorem microsOfSeconds_le {c : Nat}
    (h : d.ratio.1 % d.ratio.2 * secondMicros ≤ c * d.ratio.2) :
    microsOfSeconds d ≤ d.ratio.1 / d.ratio.2 * secondMicros + c := by
  obtain ⟨k, _, micros⟩ := microsOfSeconds_eq d
  have part : roundHalfEven (d.ratio.1 % d.ratio.2 * secondMicros * 2 ^ k) d.ratio.2 ≤ c * 2 ^ k :=
    roundHalfEven_le d.ratio_pos (by rw [Nat.mul_right_comm c]; exact Nat.mul_le_mul_right _ h)
  rw [micros]
  apply roundHalfEven_le (Nat.two_pow_pos k)
  rw [Nat.add_mul]
  exact Nat.add_le_add_left part _

/-- Of a fraction of a second, the double counts more than half a microsecond just when there is
more than half a microsecond. -/
theorem half_lt_fraction (hm : d.mantissa < 2 ^ 53) {k : Nat}
    (scale : Scale (d.ratio.1 * secondMicros) d.ratio.2 k) :
    2 ^ k < 2 * roundHalfEven (d.ratio.1 * secondMicros * 2 ^ k) d.ratio.2 ↔
      d.ratio.2 < 2 * secondMicros * d.ratio.1 := by
  have unit := d.ratio_pos
  constructor
  · intro above
    apply Nat.lt_of_not_le
    intro low
    obtain ⟨j, rfl⟩ := Nat.exists_eq_add_of_le' scale.one_le
    have half : roundHalfEven (d.ratio.1 * secondMicros * 2 ^ (j + 1)) d.ratio.2 ≤ 2 ^ j := by
      apply roundHalfEven_le unit
      calc d.ratio.1 * secondMicros * 2 ^ (j + 1) = 2 * secondMicros * d.ratio.1 * 2 ^ j := by
            rw [Nat.pow_succ]
            ac_rfl
        _ ≤ d.ratio.2 * 2 ^ j := Nat.mul_le_mul_right _ low
        _ = 2 ^ j * d.ratio.2 := Nat.mul_comm ..
    have double : 2 ^ (j + 1) = 2 ^ j * 2 := Nat.pow_succ ..
    omega
  · intro high
    obtain part | whole := Nat.lt_or_ge (d.ratio.1 * secondMicros) d.ratio.2
    · have digits : 53 ≤ k := by
        obtain last | full := scale.full
        · omega
        · have room : d.ratio.2 * 2 ^ 52 < d.ratio.2 * 2 ^ k :=
            Nat.lt_of_le_of_lt full (Nat.mul_lt_mul_of_pos_right part (Nat.two_pow_pos k))
          exact (Nat.pow_lt_pow_iff_right (by decide)).mp (Nat.lt_of_mul_lt_mul_left room)
      have apart : (2 ^ 53 + 1) * d.ratio.2 < d.ratio.1 * secondMicros * 2 ^ 54 := by
        obtain one | ⟨e, he⟩ := d.ratio_cases
        · rw [secondMicros] at part high ⊢
          omega
        · rw [he] at high ⊢
          exact above_half hm high
      exact lt_twice_round unit digits apart
    · have one : 2 ^ k ≤ roundHalfEven (d.ratio.1 * secondMicros * 2 ^ k) d.ratio.2 := by
        apply le_roundHalfEven unit
        rw [Nat.mul_comm]
        exact Nat.mul_le_mul_right _ whole
      have := Nat.two_pow_pos k
      omega

/-- A number of seconds comes to some microseconds if it is more than half of one. -/
theorem microsOfSeconds_pos (hm : d.mantissa < 2 ^ 53) :
    0 < microsOfSeconds d ↔ d.ratio.2 < 2 * secondMicros * d.ratio.1 := by
  have unit := d.ratio_pos
  obtain fraction | whole := Nat.lt_or_ge d.ratio.1 d.ratio.2
  · obtain ⟨k, scale, micros⟩ := microsOfSeconds_eq d
    rw [Nat.mod_eq_of_lt fraction] at scale
    rw [micros, Nat.mod_eq_of_lt fraction, Nat.div_eq_of_lt fraction, Nat.zero_mul, Nat.zero_mul,
      Nat.zero_add, roundHalfEven_pos (Nat.two_pow_pos k)]
    exact half_lt_fraction d hm scale
  · have second : 0 < d.ratio.1 / d.ratio.2 * secondMicros :=
      Nat.mul_pos (Nat.div_pos whole unit) (by decide)
    have some := Nat.lt_of_lt_of_le second (le_microsOfSeconds d)
    rw [secondMicros]
    exact iff_of_true some (by omega)

/-- A thousand million days, in seconds. -/
def secondLimit : Nat := 86400 * 1000000000

theorem microsOfSeconds_lt (hm : d.mantissa < 2 ^ 53) :
    microsOfSeconds d < secondLimit * secondMicros ↔ d.ratio.1 < secondLimit * d.ratio.2 := by
  have unit := d.ratio_pos
  have rest := Nat.mod_lt d.ratio.1 unit
  have within : d.ratio.1 / d.ratio.2 < secondLimit ↔ d.ratio.1 < secondLimit * d.ratio.2 :=
    Nat.div_lt_iff_lt_mul unit
  have low := le_microsOfSeconds d
  have whole := Nat.div_mul_le_self d.ratio.1 d.ratio.2
  rw [← within]
  unfold secondMicros at low ⊢
  unfold secondLimit
  constructor
  · intro short
    omega
  · intro short
    obtain early | last : d.ratio.1 / d.ratio.2 + 1 < 86400 * 1000000000 ∨
        d.ratio.1 / d.ratio.2 = 86399999999999 := by omega
    · have part : d.ratio.1 % d.ratio.2 * secondMicros ≤ secondMicros * d.ratio.2 :=
        Nat.le_trans (Nat.le_of_eq (Nat.mul_comm ..)) (Nat.mul_le_mul_left _ (Nat.le_of_lt rest))
      have high := microsOfSeconds_le d part
      unfold secondMicros at high
      omega
    · -- In the last second a double has few binary places, so its fraction is no full second.
      have places : d.ratio.2 ≤ secondMicros := by
        unfold secondMicros
        rw [last] at whole
        obtain one | ⟨e, he⟩ := d.ratio_cases
        · omega
        · rw [he] at whole ⊢
          dsimp only at whole ⊢
          omega
      have part : d.ratio.1 % d.ratio.2 * secondMicros ≤ (secondMicros - 1) * d.ratio.2 := by
        have next := Nat.mul_le_mul_right secondMicros (Nat.succ_le_of_lt rest)
        rw [Nat.succ_mul] at next
        rw [Nat.sub_one_mul, Nat.mul_comm secondMicros]
        exact Nat.le_sub_of_add_le (Nat.le_trans (Nat.add_le_add_left places _) next)
      have high := microsOfSeconds_le d part
      unfold secondMicros at high
      omega

end Micros

theorem checked_ok (n : Nat) {duration : Duration} :
    checked n = .ok duration ↔ n < secondLimit * secondMicros ∧ duration = ⟨n⟩ := by
  have days : (⟨n⟩ : Duration).days.natAbs = n / dayMicros := by
    rw [days, Int.fdiv_eq_ediv_of_nonneg _ (Int.natCast_nonneg _)]
    rfl
  have within : n / dayMicros ≤ 999999999 ↔ n < secondLimit * secondMicros := by
    unfold dayMicros secondLimit secondMicros
    omega
  unfold checked
  simp only [days, within]
  split
  · next short => simp [short, eq_comm]
  · next long => simp [long]

/-- A number of seconds above zero has a duration if it stays below the limit. -/
theorem ofSeconds_ok {x : Float} (h : 0 < x) {duration : Duration} :
    ofSeconds x = .ok duration ↔ ∃ d, read x = .finite d ∧
      d.ratio.1 < secondLimit * d.ratio.2 ∧ duration = ⟨microsOfSeconds d⟩ := by
  unfold ofSeconds
  obtain ⟨d, hd, positive⟩ | infinite := read_of_lt h
  · rw [hd]
    simp only [positive, Bool.false_eq_true, ↓reduceIte, checked_ok,
      microsOfSeconds_lt d (mantissa_lt hd), Reading.finite.injEq, exists_eq_left']
  · simp only [infinite, reduceCtorEq, false_and, exists_false]

end Time.Duration

end Rehearsal
