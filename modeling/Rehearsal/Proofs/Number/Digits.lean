import Rehearsal.Number.Digits
import Rehearsal.Number.Text

/-!
# Reading digits back

The digits of a number read as that number, also with zeros in front of them. Where a run of digits
ends is plain from the text, so a text that begins with a number determines it and what follows it.
Texts are in the order of the numbers only among numbers with equally many digits.
-/

namespace Rehearsal

/-- Two texts that begin with the longest run of items of one kind begin with the same run. -/
theorem run_append_inj {α : Type} {kind : α → Prop} :
    ∀ {a b r s : List α}, (∀ x ∈ a, kind x) → (∀ x ∈ b, kind x) → (∀ x ∈ r.head?, ¬ kind x) →
      (∀ x ∈ s.head?, ¬ kind x) → a ++ r = b ++ s → a = b ∧ r = s
  | [], [], r, s, _, _, _, _, h => ⟨rfl, h⟩
  | [], y :: b, r, s, _, hb, hr, _, h => by
    subst h
    exact (hr y rfl (hb y (List.mem_cons_self ..))).elim
  | x :: a, [], r, s, ha, _, _, hs, h => by
    subst h
    exact (hs x rfl (ha x (List.mem_cons_self ..))).elim
  | x :: a, y :: b, r, s, ha, hb, hr, hs, h => by
    obtain ⟨rfl, tails⟩ := List.cons.inj h
    obtain ⟨rfl, rfl⟩ := run_append_inj (fun z hz => ha z (List.mem_cons_of_mem x hz))
      (fun z hz => hb z (List.mem_cons_of_mem x hz)) hr hs tails
    exact ⟨rfl, rfl⟩

namespace Number

theorem toList_toString (n : Nat) : (toString n).toList = Nat.toDigits 10 n := by
  rw [Nat.toString_eq_ofList_toDigits, String.toList_ofList]

theorem isDigit_zero : isDigit '0' = true := by decide

theorem isDigit_iff {c : Char} : isDigit c = true ↔ c.isDigit = true := by
  simp only [isDigit, Char.isDigit, Bool.and_eq_true, decide_eq_true_eq, ge_iff_le,
    UInt32.le_iff_toNat_le]
  rfl

theorem isDigit_of_mem_toString {n : Nat} {c : Char} (h : c ∈ (toString n).toList) :
    isDigit c = true := by
  rw [toList_toString] at h
  exact isDigit_iff.mpr (Nat.isDigit_of_mem_toDigits (by decide) (by decide) h)

theorem toString_ne_nil (n : Nat) : (toString n).toList ≠ [] := by
  rw [toList_toString]
  exact Nat.toDigits_ne_nil

/-- The digits of a number read as that number. -/
theorem ofDigits_toString (n : Nat) : ofDigits (toString n).toList = n := by
  have h : Nat.ofDigitChars 10 (Nat.toDigits 10 n) 0 = n := Nat.ofDigitChars_ten_toDigits
  rw [Nat.ofDigitChars_eq_foldl] at h
  simp only [Nat.mul_comm] at h
  rw [toList_toString]
  exact h

theorem toList_padLeft (width : Nat) (s : String) :
    (padLeft width s).toList = List.replicate (width - s.length) '0' ++ s.toList := by
  rw [padLeft, zeros, String.toList_append, String.toList_ofList]

theorem isDigit_of_mem_padLeft {width n : Nat} {c : Char}
    (h : c ∈ (padLeft width (toString n)).toList) : isDigit c = true := by
  rw [toList_padLeft, List.mem_append] at h
  rcases h with h | h
  · rw [List.eq_of_mem_replicate h]
    exact isDigit_zero
  · exact isDigit_of_mem_toString h

/-- Zeros in front of the digits do not change what they read as. -/
theorem ofDigits_padLeft (width n : Nat) : ofDigits (padLeft width (toString n)).toList = n := by
  have zeros (count : Nat) :
      (List.replicate count '0').foldl (fun n c => n * 10 + digitValue c) 0 = 0 := by
    induction count with
    | zero => rfl
    | succ count ih =>
      rw [List.replicate_succ, List.foldl_cons]
      exact ih
  rw [toList_padLeft, ofDigits, List.foldl_append, zeros]
  exact ofDigits_toString n

/-- A text goes on with something else than a digit, or ends. -/
def EndsDigits (rest : List Char) : Prop := ∀ c ∈ rest.head?, ¬ isDigit c = true

@[simp]
theorem endsDigits_nil : EndsDigits [] := fun _ h => by cases h

theorem endsDigits_cons {c : Char} {rest : List Char} (h : isDigit c = false) :
    EndsDigits (c :: rest) := fun d hd => by
  cases hd
  simp [h]

/-- A text that begins with the digits of a number determines the number and the rest. -/
theorem padLeft_append_inj {width m n : Nat} {r s : List Char} (hr : EndsDigits r)
    (hs : EndsDigits s)
    (h : (padLeft width (toString m)).toList ++ r = (padLeft width (toString n)).toList ++ s) :
    m = n ∧ r = s := by
  obtain ⟨digits, rest⟩ := run_append_inj (fun _ => isDigit_of_mem_padLeft)
    (fun _ => isDigit_of_mem_padLeft) hr hs h
  refine ⟨?_, rest⟩
  rw [← ofDigits_padLeft width m, digits, ofDigits_padLeft]

/-! ## The order of digits -/

theorem digitValue_le {c : Char} (h : isDigit c = true) : digitValue c ≤ 9 := by
  simp only [isDigit, Bool.and_eq_true, decide_eq_true_eq] at h
  unfold digitValue
  omega

/-- Of two digits the one with the smaller code point has the smaller value. -/
theorem digitValue_lt {c d : Char} (hc : isDigit c = true) (h : c < d) :
    digitValue c < digitValue d := by
  simp only [isDigit, Bool.and_eq_true, decide_eq_true_eq] at hc
  have numbers : c.toNat < d.toNat := h
  unfold digitValue
  omega

/-- The digits of a number, read behind what was read before. -/
def digitsBehind (n : Nat) (digits : List Char) : Nat :=
  digits.foldl (fun n c => n * 10 + digitValue c) n

/-- As many more digits behind a smaller number leave it smaller. -/
theorem digitsBehind_lt {as bs : List Char} (same : as.length = bs.length)
    (digits : ∀ c ∈ as, isDigit c = true) {m n : Nat} (less : m < n) :
    digitsBehind m as < digitsBehind n bs := by
  induction as generalizing bs m n with
  | nil =>
    obtain rfl : bs = [] := List.length_eq_zero_iff.mp same.symm
    exact less
  | cons c as ih =>
    cases bs with
    | nil => cases same
    | cons d bs =>
      have value := digitValue_le (digits c (List.mem_cons_self ..))
      have ahead : m * 10 + digitValue c < n * 10 + digitValue d := by omega
      exact ih (Nat.succ.inj same) (fun x hx => digits x (List.mem_cons_of_mem c hx)) ahead

/-- Texts of equally many digits are in the order of what they read as. -/
theorem digitsBehind_lt_of_lt {as bs : List Char} (same : as.length = bs.length)
    (digits : ∀ c ∈ as, isDigit c = true) (n : Nat) (h : as < bs) :
    digitsBehind n as < digitsBehind n bs := by
  induction as generalizing bs n with
  | nil =>
    obtain rfl : bs = [] := List.length_eq_zero_iff.mp same.symm
    exact absurd h (List.lt_irrefl [])
  | cons c as ih =>
    cases bs with
    | nil => cases same
    | cons d bs =>
      have more : ∀ x ∈ as, isDigit x = true := fun x hx => digits x (List.mem_cons_of_mem c hx)
      have rest : as.length = bs.length := Nat.succ.inj same
      obtain first | ⟨rfl, later⟩ := List.cons_lt_cons_iff.mp h
      · have value := digitValue_lt (digits c (List.mem_cons_self ..)) first
        have ahead : n * 10 + digitValue c < n * 10 + digitValue d := by omega
        exact digitsBehind_lt rest more ahead
      · exact ih rest more _ later

/-- Numbers with equally many digits are in the order of their texts. -/
theorem lt_of_toString_lt {m n : Nat} (same : (toString m).length = (toString n).length)
    (h : toString m < toString n) : m < n := by
  rw [← ofDigits_toString m, ← ofDigits_toString n]
  exact digitsBehind_lt_of_lt same (fun _ => isDigit_of_mem_toString) 0 h

end Number

end Rehearsal
