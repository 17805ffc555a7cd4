import Rehearsal.Proofs.Number.Word

/-!
# The double nearest to a quotient

Below `2 ^ 52` the double nearest to a quotient is the quotient times a power of two, rounded to a
whole number and divided by the power again. The power is the one that leaves 53 digits, or the
largest one that there is.
-/

namespace Rehearsal.Number

/-! ## Rounding -/

section Rounding

variable {num den : Nat}

theorem roundHalfEven_cases (num den : Nat) :
    (2 * (num % den) < den ∧ roundHalfEven num den = num / den) ∨
      (den < 2 * (num % den) ∧ roundHalfEven num den = num / den + 1) ∨
      (2 * (num % den) = den ∧ roundHalfEven num den = num / den + num / den % 2) := by
  unfold roundHalfEven
  dsimp only
  split
  · next low => exact .inl ⟨low, rfl⟩
  · split
    · next high => exact .inr (.inl ⟨high, rfl⟩)
    · exact .inr (.inr ⟨by omega, rfl⟩)

/-- A rounded quotient is at most half a unit away. -/
theorem roundHalfEven_near (hd : 0 < den) :
    2 * num ≤ 2 * (roundHalfEven num den * den) + den ∧
      2 * (roundHalfEven num den * den) ≤ 2 * num + den := by
  have whole := Nat.div_add_mod' num den
  have rest := Nat.mod_lt num hd
  obtain ⟨_, hr⟩ | ⟨_, hr⟩ | ⟨_, hr⟩ := roundHalfEven_cases num den
  · rw [hr]
    omega
  · rw [hr, Nat.add_mul, Nat.one_mul]
    omega
  · rw [hr, Nat.add_mul]
    obtain even | odd := Nat.mod_two_eq_zero_or_one (num / den)
    · rw [even]
      omega
    · rw [odd]
      omega

theorem le_roundHalfEven {c : Nat} (hd : 0 < den) (h : c * den ≤ num) :
    c ≤ roundHalfEven num den := by
  have low := (Nat.le_div_iff_mul_le hd).mpr h
  obtain ⟨_, hr⟩ | ⟨_, hr⟩ | ⟨_, hr⟩ := roundHalfEven_cases num den
  all_goals omega

theorem roundHalfEven_le {c : Nat} (hd : 0 < den) (h : num ≤ c * den) :
    roundHalfEven num den ≤ c := by
  have whole := Nat.div_add_mod' num den
  have low : num / den ≤ c := Nat.div_le_of_le_mul (by rwa [Nat.mul_comm])
  obtain below | exact_ := Nat.lt_or_eq_of_le low
  · obtain ⟨_, hr⟩ | ⟨_, hr⟩ | ⟨_, hr⟩ := roundHalfEven_cases num den
    all_goals omega
  · rw [exact_] at whole
    have none : num % den = 0 := by omega
    obtain ⟨_, hr⟩ | ⟨high, _⟩ | ⟨half, _⟩ := roundHalfEven_cases num den
    all_goals omega

theorem roundHalfEven_mul_left {c : Nat} (hc : 0 < c) :
    roundHalfEven (c * num) (c * den) = roundHalfEven num den := by
  unfold roundHalfEven
  dsimp only
  have twice : 2 * (c * (num % den)) = c * (2 * (num % den)) := Nat.mul_left_comm ..
  simp only [Nat.mul_div_mul_left _ _ hc, Nat.mul_mod_mul_left, twice, Nat.mul_lt_mul_left hc]

/-- Rounding looks at the value of a quotient only. -/
theorem roundHalfEven_congr {num' den' : Nat} (hd : 0 < den) (hd' : 0 < den')
    (same : num * den' = num' * den) : roundHalfEven num den = roundHalfEven num' den' := by
  rw [← roundHalfEven_mul_left hd', ← @roundHalfEven_mul_left num' den' den hd, Nat.mul_comm den',
    same, Nat.mul_comm num', Nat.mul_comm den']

/-- What is more than a half is rounded to something. -/
theorem roundHalfEven_pos (hd : 0 < den) : 0 < roundHalfEven num den ↔ den < 2 * num := by
  cases Nat.lt_or_ge num den with
  | inl small =>
    have cases := roundHalfEven_cases num den
    rw [Nat.mod_eq_of_lt small, Nat.div_eq_of_lt small] at cases
    omega
  | inr large =>
    have one : 1 ≤ roundHalfEven num den := le_roundHalfEven hd (by rwa [Nat.one_mul])
    omega

end Rounding

/-! ## Quotients and powers of two -/

/-- A quotient is at least `2 ^ e`. -/
def Reaches (num den : Nat) : Int → Prop
  | .ofNat e => den * Nat.pow 2 e ≤ num
  | .negSucc e => den ≤ num * Nat.pow 2 (e + 1)

instance (num den : Nat) : DecidablePred (Reaches num den)
  | .ofNat _ => inferInstanceAs (Decidable (_ ≤ _))
  | .negSucc _ => inferInstanceAs (Decidable (_ ≤ _))

section Powers

variable {num den : Nat}

/-- The same in whole numbers, after a shift by `k`. -/
theorem reaches_iff {e : Int} {j k : Nat} (h : e + k = j) :
    Reaches num den e ↔ den * 2 ^ j ≤ num * 2 ^ k := by
  cases e with
  | ofNat n =>
    have hj : j = n + k := by
      change (n : Int) + k = j at h
      omega
    have shifted : den * 2 ^ j = den * Nat.pow 2 n * 2 ^ k := by
      rw [hj, Nat.pow_add, Nat.mul_assoc]
      rfl
    rw [shifted, Nat.mul_le_mul_right_iff (Nat.two_pow_pos k)]
    rfl
  | negSucc n =>
    have hk : k = n + 1 + j := by omega
    have shifted : num * 2 ^ k = num * Nat.pow 2 (n + 1) * 2 ^ j := by
      rw [hk, Nat.pow_add, Nat.mul_assoc]
      rfl
    rw [shifted, Nat.mul_le_mul_right_iff (Nat.two_pow_pos j)]
    rfl

theorem Reaches.mono {e e' : Int} (h : Reaches num den e') (le : e ≤ e') : Reaches num den e := by
  have low : e + e.natAbs = (e + e.natAbs).toNat := by omega
  have high : e' + e.natAbs = (e' + e.natAbs).toNat := by omega
  rw [reaches_iff high] at h
  rw [reaches_iff low]
  have power : 2 ^ (e + e.natAbs).toNat ≤ 2 ^ (e' + e.natAbs).toNat :=
    Nat.pow_le_pow_right (by decide) (by omega)
  exact Nat.le_trans (Nat.mul_le_mul_left den power) h

/-- The greatest exponent that a quotient reaches. -/
theorem reaches_leading (hn : 0 < num) (hd : 0 < den) :
    Reaches num den ((num.log2 : Int) - den.log2 - 1) ∧
      ¬ Reaches num den ((num.log2 : Int) - den.log2 + 1) := by
  have num_le := Nat.log2_self_le (Nat.ne_of_gt hn)
  have lt_num : num < 2 ^ (num.log2 + 1) := Nat.lt_log2_self
  have den_le := Nat.log2_self_le (Nat.ne_of_gt hd)
  have lt_den : den < 2 ^ (den.log2 + 1) := Nat.lt_log2_self
  constructor
  · have shift : (num.log2 : Int) - den.log2 - 1 + (den.log2 + 1 : Nat) = (num.log2 : Nat) := by
      omega
    rw [reaches_iff shift]
    calc den * 2 ^ num.log2 ≤ 2 ^ (den.log2 + 1) * num :=
          Nat.mul_le_mul (Nat.le_of_lt lt_den) num_le
      _ = num * 2 ^ (den.log2 + 1) := Nat.mul_comm _ _
  · have shift : (num.log2 : Int) - den.log2 + 1 + (den.log2 : Nat) = (num.log2 + 1 : Nat) := by
      omega
    rw [reaches_iff shift, Nat.not_le]
    calc num * 2 ^ den.log2 < 2 ^ (num.log2 + 1) * 2 ^ den.log2 :=
          Nat.mul_lt_mul_of_pos_right lt_num (Nat.two_pow_pos _)
      _ ≤ 2 ^ (num.log2 + 1) * den := Nat.mul_le_mul_left _ den_le
      _ = den * 2 ^ (num.log2 + 1) := Nat.mul_comm _ _

end Powers

/-! ## The nearest double -/

/-- The word of a quotient whose last digit counts `2 ^ q`. -/
def wordAt (num den : Nat) (q : Int) : Nat :=
  let scaled : Nat :=
    match q with
    | .ofNat e => roundHalfEven num (den * Nat.pow 2 e)
    | .negSucc e => roundHalfEven (num * Nat.pow 2 (e + 1)) den
  min ((q - smallestExponent).toNat * fractionLimit + scaled)
    ((exponentLimit - 1) * fractionLimit)

section Nearest

variable {num den : Nat}

theorem wordAt_negSucc (num den n : Nat) :
    wordAt num den (.negSucc n) =
      min ((Int.negSucc n - smallestExponent).toNat * 2 ^ 52 +
        roundHalfEven (num * 2 ^ (n + 1)) den) (2047 * 2 ^ 52) := rfl

/-- The estimate from the lengths is the leading exponent or one more. -/
theorem nearestWord_estimate (hn : num ≠ 0) :
    nearestWord num den =
      let estimate : Int := (num.log2 : Int) - den.log2
      let leading := if Reaches num den estimate then estimate else estimate - 1
      wordAt num den (max (leading - 52) smallestExponent) := by
  unfold nearestWord
  rw [if_neg hn]
  generalize (num.log2 : Int) - den.log2 = estimate
  dsimp only
  cases estimate with
  | ofNat e =>
    simp only [decide_eq_true_eq]
    rfl
  | negSucc e =>
    simp only [decide_eq_true_eq]
    rfl

theorem nearestWord_leading (hn : 0 < num) (hd : 0 < den) :
    ∃ leading : Int, Reaches num den leading ∧ ¬ Reaches num den (leading + 1) ∧
      nearestWord num den = wordAt num den (max (leading - 52) smallestExponent) := by
  obtain ⟨reached, past⟩ := reaches_leading hn hd
  have word := @nearestWord_estimate num den (Nat.ne_of_gt hn)
  dsimp only at word
  generalize (num.log2 : Int) - den.log2 = estimate at *
  by_cases h : Reaches num den estimate
  · rw [if_pos h] at word
    exact ⟨estimate, h, past, word⟩
  · rw [if_neg h] at word
    exact ⟨estimate - 1, reached, by rwa [Int.sub_add_cancel], word⟩

/-- The power of two that a quotient is scaled by before it is rounded. -/
structure Scale (num den k : Nat) : Prop where
  one_le : 1 ≤ k
  le_last : k ≤ 1074
  lt : num * 2 ^ k < den * 2 ^ 53
  full : k = 1074 ∨ den * 2 ^ 52 ≤ num * 2 ^ k

/-- Below `2 ^ 52`, the word counts the rounded multiples of the last digit. -/
theorem nearestWord_eq (hd : 0 < den) (small : num < den * 2 ^ 52) :
    ∃ k, Scale num den k ∧
      nearestWord num den = (1074 - k) * 2 ^ 52 + roundHalfEven (num * 2 ^ k) den := by
  obtain rfl | hn := Nat.eq_zero_or_pos num
  · have none (k : Nat) : roundHalfEven (0 * 2 ^ k) den = 0 :=
      Nat.le_zero.mp (roundHalfEven_le hd (Nat.le_of_eq (by rw [Nat.zero_mul, Nat.zero_mul])))
    have lt (k : Nat) : 0 * 2 ^ k < den * 2 ^ 53 := by
      rw [Nat.zero_mul]
      exact Nat.mul_pos hd (Nat.two_pow_pos 53)
    have word : nearestWord 0 den = (1074 - 1074) * 2 ^ 52 + 0 := rfl
    exact ⟨1074, ⟨by decide, by decide, lt 1074, .inl rfl⟩,
      word.trans (congrArg ((1074 - 1074) * 2 ^ 52 + ·) (none 1074).symm)⟩
  obtain ⟨leading, reached, past, word⟩ := nearestWord_leading hn hd
  have high : ¬ Reaches num den 52 := by
    rw [reaches_iff (k := 0) (j := 52) rfl]
    omega
  have below : leading < 52 := Int.lt_of_not_ge fun h => high (reached.mono h)
  -- The last digit counts `2 ^ -k`, with at least one binary place.
  obtain ⟨n, hq⟩ : ∃ n, max (leading - 52) smallestExponent = .negSucc n := by
    refine ⟨(-(max (leading - 52) smallestExponent) - 1).toNat, ?_⟩
    unfold smallestExponent
    omega
  have digits : Int.negSucc n = -((n + 1 : Nat) : Int) := rfl
  have least : smallestExponent = -1074 := rfl
  have last : n + 1 ≤ 1074 := by omega
  have lt : num * 2 ^ (n + 1) < den * 2 ^ 53 := by
    have shift : (53 - (n + 1 : Nat) : Int) + (n + 1 : Nat) = (53 : Nat) := by omega
    rw [← Nat.not_le, ← reaches_iff shift]
    exact fun h => past (h.mono (by omega))
  have full : n + 1 = 1074 ∨ den * 2 ^ 52 ≤ num * 2 ^ (n + 1) := by
    obtain hl | hl : leading - 52 = -((n + 1 : Nat) : Int) ∨ n + 1 = 1074 := by omega
    · right
      rw [← reaches_iff (e := leading) (by omega)]
      exact reached
    · exact .inl hl
  refine ⟨n + 1, ⟨by omega, last, lt, full⟩, ?_⟩
  have rounded : roundHalfEven (num * 2 ^ (n + 1)) den ≤ 2 ^ 53 :=
    roundHalfEven_le hd (by rw [Nat.mul_comm _ den]; exact Nat.le_of_lt lt)
  have position : (Int.negSucc n - smallestExponent).toNat = 1074 - (n + 1) := by omega
  rw [word, hq, wordAt_negSucc, position]
  refine Nat.min_eq_left ?_
  calc (1074 - (n + 1)) * 2 ^ 52 + roundHalfEven (num * 2 ^ (n + 1)) den
      ≤ 1073 * 2 ^ 52 + 2 ^ 53 :=
        Nat.add_le_add (Nat.mul_le_mul_right _ (by omega)) rounded
    _ ≤ 2047 * 2 ^ 52 := by decide

theorem readWord_parts {e f : Nat} (he : e < 2047) (hf : f < 2 ^ 52) :
    readWord (e * 2 ^ 52 + f) =
      .finite (if e = 0 then ⟨false, f, -1074⟩ else ⟨false, 2 ^ 52 + f, (e : Int) - 1075⟩) := by
  have fraction : (e * 2 ^ 52 + f) % fractionLimit = f := by
    change (e * 2 ^ 52 + f) % 2 ^ 52 = f
    omega
  have biased : (e * 2 ^ 52 + f) / fractionLimit % exponentLimit = e := by
    change (e * 2 ^ 52 + f) / 2 ^ 52 % 2 ^ 11 = e
    omega
  have unsigned : decide (Nat.pow 2 63 ≤ e * 2 ^ 52 + f) = false := by
    apply decide_eq_false
    change ¬ 2 ^ 63 ≤ e * 2 ^ 52 + f
    omega
  have finite : e ≠ exponentLimit - 1 := by
    change e ≠ 2 ^ 11 - 1
    omega
  unfold readWord
  simp only [fraction, biased, unsigned, finite, ↓reduceIte]
  split
  · rfl
  · rfl

theorem ratio_fraction (negative : Bool) (mantissa : Nat) {k : Nat} (hk : 1 ≤ k) :
    (Dyadic.mk negative mantissa (-(k : Int))).ratio = (mantissa, 2 ^ k) := by
  obtain ⟨n, rfl⟩ := Nat.exists_eq_add_of_le' hk
  rfl

/-- A word that counts multiples of the last digit is read as that many of them. -/
theorem readWord_multiple {k count : Nat} (one_le : 1 ≤ k) (le_last : k ≤ 1074)
    (bound : count ≤ 2 ^ 53) (full : k = 1074 ∨ 2 ^ 52 ≤ count) :
    ∃ s, readWord ((1074 - k) * 2 ^ 52 + count) = .finite s ∧ s.negative = false ∧
      0 < s.ratio.2 ∧ s.ratio.1 * 2 ^ k = count * s.ratio.2 := by
  have unit : 0 < 2 ^ k := Nat.two_pow_pos k
  obtain small | large := Nat.lt_or_ge count (2 ^ 52)
  · -- Only the multiples of the smallest double have fewer digits.
    have exponent : (-1074 : Int) = -(k : Int) := by omega
    have read := readWord_parts (e := 1074 - k) (by omega) small
    rw [if_pos (by omega), exponent] at read
    refine ⟨_, read, by dsimp only, ?_⟩
    simp only [ratio_fraction _ _ one_le, unit, and_self]
  obtain below | rfl := Nat.lt_or_eq_of_le bound
  · have word : (1075 - k) * 2 ^ 52 + (count - 2 ^ 52) = (1074 - k) * 2 ^ 52 + count := by omega
    have mantissa : 2 ^ 52 + (count - 2 ^ 52) = count := by omega
    have exponent : ((1075 - k : Nat) : Int) - 1075 = -(k : Int) := by omega
    have read := readWord_parts (e := 1075 - k) (f := count - 2 ^ 52) (by omega) (by omega)
    rw [if_neg (by omega), word, mantissa, exponent] at read
    refine ⟨_, read, by dsimp only, ?_⟩
    simp only [ratio_fraction _ _ one_le, unit, and_self]
  · -- Rounding has gone up to the next power of two.
    have word : (1076 - k) * 2 ^ 52 + 0 = (1074 - k) * 2 ^ 52 + 2 ^ 53 := by omega
    have read := readWord_parts (e := 1076 - k) (f := 0) (by omega) (by decide)
    rw [if_neg (by omega), word, Nat.add_zero] at read
    refine ⟨_, read, by dsimp only, ?_⟩
    obtain rfl | ⟨n, rfl⟩ : k = 1 ∨ ∃ n, k = n + 1 + 1 := by
      cases k with
      | zero => omega
      | succ k =>
        cases k with
        | zero => exact .inl rfl
        | succ n => exact .inr ⟨n, rfl⟩
    · decide
    · have exponent : ((1076 - (n + 1 + 1) : Nat) : Int) - 1075 = -((n + 1 : Nat) : Int) := by omega
      have double : 2 ^ (n + 1 + 1) = 2 ^ (n + 1) * 2 := Nat.pow_succ ..
      simp only [exponent, ratio_fraction _ _ (Nat.le_add_left 1 n), double]
      exact ⟨Nat.two_pow_pos (n + 1), by omega⟩

/-- The double nearest to a quotient, in whole numbers. -/
theorem read_nearest (hd : 0 < den) (small : num < den * 2 ^ 52) :
    ∃ k s, Scale num den k ∧ read (nearest false num den) = .finite s ∧ s.negative = false ∧
      0 < s.ratio.2 ∧ s.ratio.1 * 2 ^ k = roundHalfEven (num * 2 ^ k) den * s.ratio.2 := by
  obtain ⟨k, scale, word⟩ := nearestWord_eq hd small
  have bound : roundHalfEven (num * 2 ^ k) den ≤ 2 ^ 53 :=
    roundHalfEven_le hd (by rw [Nat.mul_comm _ den]; exact Nat.le_of_lt scale.lt)
  have full : k = 1074 ∨ 2 ^ 52 ≤ roundHalfEven (num * 2 ^ k) den :=
    scale.full.imp id fun h => le_roundHalfEven hd (by rwa [Nat.mul_comm])
  obtain ⟨s, hs, positive, unit, value⟩ :=
    readWord_multiple scale.one_le scale.le_last bound full
  refine ⟨k, s, scale, ?_, positive, unit, value⟩
  have upper : (1074 - k) * 2 ^ 52 + roundHalfEven (num * 2 ^ k) den ≤ 1073 * 2 ^ 52 + 2 ^ 53 :=
    Nat.add_le_add (Nat.mul_le_mul_right _ (by have := scale.one_le; omega)) bound
  rw [← word] at hs upper
  have same : (UInt64.ofNat (nearestWord num den)).toNat = nearestWord num den :=
    UInt64.toNat_ofNat_of_lt' (Nat.lt_of_le_of_lt upper (by decide))
  change read (Float.ofBits (UInt64.ofNat (nearestWord num den + 0))) = _
  rw [Nat.add_zero, read_ofBits (by omega), same, hs]

end Nearest

end Rehearsal.Number
