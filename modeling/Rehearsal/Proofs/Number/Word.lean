import Mathlib
import Rehearsal.Number.Basic

/-!
# Words of doubles

A double is kept as a word, which splits into sign, exponent and fraction. Every word but that of
another not-a-number is the word of its double, there is one double that is not a number, and a
double above zero reads without a sign.

That a double is packed as it was unpacked is a law of the library (`pack_unpack`). No single module
of Mathlib imports the file it is in, so this one imports all of them.
-/

namespace Rehearsal.Number

open Float.Model Float.Model.UnpackedFloat

/-! ## The parts of a word -/

abbrev wordFraction (b : BitVec 64) : BitVec 52 := @unpackMantissa Format.binary64 b

abbrev wordExponent (b : BitVec 64) : BitVec 11 := @unpackExponent Format.binary64 b

abbrev wordSign (b : BitVec 64) : Sign := .ofBitVec (@unpackSign Format.binary64 b)

theorem toNat_wordFraction (b : BitVec 64) : (wordFraction b).toNat = b.toNat % 2 ^ 52 := by
  simp [unpackMantissa]

theorem toNat_wordExponent (b : BitVec 64) :
    (wordExponent b).toNat = b.toNat / 2 ^ 52 % 2 ^ 11 := by
  simp [unpackExponent, Nat.shiftRight_eq_div_pow]

theorem toNat_unpackSign (b : BitVec 64) :
    (@unpackSign Format.binary64 b).toNat = b.toNat / 2 ^ 63 := by
  have bound := b.isLt
  simp only [unpackSign, BitVec.toNat_cast, BitVec.extractLsb_toNat, Nat.shiftRight_eq_div_pow]
  omega

theorem toBits_ofBits {w : UInt64} (finite : w.toNat / 2 ^ 52 % 2 ^ 11 ≠ 2047) :
    (Float.ofBits w).toBits = w := by
  have number : @isNaNBits Format.binary64 w.toBitVec = false := by
    refine decide_eq_false fun marked => finite ?_
    rw [← UInt64.toNat_toBitVec, ← toNat_wordExponent]
    exact BitVec.toNat_eq.mp marked.1
  have same : UnpackedFloat.pack .binary64 (.unpack .binary64 w.toBitVec) = w.toBitVec := by
    rw [pack_unpack, number]
    rfl
  exact congrArg UInt64.ofBitVec same

/-- A word whose exponent is not the last one is read back from its double. -/
theorem read_ofBits {w : UInt64} (finite : w.toNat / 2 ^ 52 % 2 ^ 11 ≠ 2047) :
    read (Float.ofBits w) = readWord w.toNat := by
  rw [read, toBits_ofBits finite]

/-! ## The double that is not a number -/

/-- All doubles that are not numbers are one. -/
theorem eq_notANumber {x : Float} (h : x.isNaN = true) : x = Number.notANumber := by
  have unpacked : (UnpackedFloat.unpack .binary64 x.toBits.toBitVec).isNaN = true := h
  have word : x.toBits.toBitVec = packedNaN .binary64 := by
    unfold UnpackedFloat.unpack at unpacked
    dsimp only at unpacked
    split at unpacked
    · next full =>
      split at unpacked
      · cases unpacked
      · next fraction => exact x.toModel.valid.eq_packedNaN full fraction
    · split at unpacked
      · split at unpacked <;> cases unpacked
      · cases unpacked
  have packed : Number.notANumber.toBits.toBitVec = packedNaN .binary64 := by decide +kernel
  have bits : x.toBits = Number.notANumber.toBits := UInt64.toBitVec_inj.mp (word.trans packed.symm)
  obtain ⟨⟨_, _⟩⟩ := x
  cases bits
  rfl

/-! ## Doubles above zero -/

theorem lt_of_wordSign {b : BitVec 64} (h : wordSign b = .positive) : b.toNat < 2 ^ 63 := by
  have bound := b.isLt
  have clear : (wordSign b).toBitVec.toNat = 0 := by
    rw [h]
    rfl
  rw [Sign.toBitVec_ofBitVec, toNat_unpackSign] at clear
  omega

/-- What is above zero has no sign, and it is a number. -/
theorem parts_of_lt {b : BitVec 64}
    (h : (UnpackedFloat.zero .positive).lt (.unpack .binary64 b) = true) :
    wordSign b = .positive ∧ ((wordExponent b).toNat = 2047 → (wordFraction b).toNat = 0) := by
  unfold UnpackedFloat.unpack at h
  dsimp only at h
  cases hs : wordSign b with
  | positive =>
    refine ⟨rfl, fun full => ?_⟩
    split at h
    · split at h
      · next clear => exact BitVec.toNat_eq.mp clear
      · cases h
    · next regular => exact absurd (BitVec.eq_of_toNat_eq full) regular
  | negative =>
    -- Nothing with a sign is above zero.
    unfold wordSign at hs
    rw [hs] at h
    split at h
    · split at h <;> cases h
    · split at h
      · split at h <;> cases h
      · cases h

theorem read_of_lt {x : Float} (h : 0 < x) :
    (∃ d, read x = .finite d ∧ d.negative = false) ∨ read x = .infinite false := by
  have compared : (UnpackedFloat.zero .positive).lt
      (.unpack .binary64 x.toBits.toBitVec) = true := decide_eq_true_iff.mp h
  obtain ⟨positive, number⟩ := parts_of_lt compared
  have unsigned : decide (Nat.pow 2 63 ≤ x.toBits.toNat) = false :=
    decide_eq_false (Nat.not_le_of_lt (lt_of_wordSign positive))
  rw [toNat_wordExponent, toNat_wordFraction] at number
  -- What is left of the reading is the sign, which is the same in all of its branches.
  unfold read readWord
  simp only [unsigned]
  split
  · next full =>
    have clear : x.toBits.toNat % fractionLimit = 0 := number full
    rw [if_pos clear]
    exact .inr rfl
  · split
    · exact .inl ⟨_, rfl, rfl⟩
    · exact .inl ⟨_, rfl, rfl⟩

end Rehearsal.Number
