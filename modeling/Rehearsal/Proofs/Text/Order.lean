import Rehearsal.Proofs.Value.Joined

/-!
# The order of texts

Texts are in the order of the numbers of their code points. The numbers tell them apart as long as
no surrogate has the number of a character, and then a sort has one outcome, whatever the order in
which it finds its items.
-/

namespace Rehearsal

/-- A sort by keys that tell the items apart does not depend on their order. -/
theorem mergeSort_eq_of_perm {α : Type} {le : α → α → Bool} (key : α → List Nat)
    (ordered : ∀ a b, le a b = true ↔ ¬key b < key a) {as bs : List α} (perm : as.Perm bs)
    (apart : ∀ a ∈ as, ∀ b ∈ as, key a = key b → a = b) : as.mergeSort le = bs.mergeSort le := by
  have trans : ∀ a b c, le a b = true → le b c = true → le a c = true := by
    intro a b c hab hbc
    rw [ordered, List.not_lt] at hab hbc ⊢
    exact List.le_trans hab hbc
  have total : ∀ a b, (le a b || le b a) = true := by
    intro a b
    rw [Bool.or_eq_true, ordered, ordered, List.not_lt, List.not_lt]
    exact List.le_total (key a) (key b)
  have sorted := (List.mergeSort_perm as le).trans (perm.trans (List.mergeSort_perm bs le).symm)
  refine List.Perm.eq_of_pairwise ?_ (List.pairwise_mergeSort trans total as)
    (List.pairwise_mergeSort trans total bs) sorted
  intro a b ha hb hab hba
  have inside : b ∈ as := perm.mem_iff.mpr (List.mem_mergeSort.mp hb)
  rw [ordered, List.not_lt] at hab hba
  exact apart a (List.mem_mergeSort.mp ha) b inside (List.le_antisymm hab hba)

/-- An order of items is the order of their lists. -/
theorem map_lt_map {α β : Type} [LT α] [LT β] {f : α → β} (mono : ∀ x y, x < y ↔ f x < f y)
    (inj : ∀ x y, f x = f y → x = y) (xs ys : List α) : xs.map f < ys.map f ↔ xs < ys := by
  induction xs generalizing ys with
  | nil => cases ys <;> simp
  | cons x xs ih =>
    cases ys with
    | nil => simp
    | cons y ys =>
      have same : f x = f y ↔ x = y := ⟨inj x y, congrArg f⟩
      rw [List.map_cons, List.map_cons, List.cons_lt_cons_iff, List.cons_lt_cons_iff, ih, ← mono,
        same]

namespace Text

namespace CodePoint

/-- A character, or a surrogate whose number is that of no character. -/
def Genuine (p : CodePoint) : Prop := ofNumber p.number = p

theorem genuine_char (c : Char) : (char c).Genuine := by
  have valid : c.toNat.isValidChar := c.valid
  rw [Genuine, number, ofNumber, if_pos valid, Char.ofNat_toNat]

end CodePoint

def numbers (points : List CodePoint) : List Nat := points.map CodePoint.number

theorem numbers_inj {ps qs : List CodePoint} (hp : ∀ p ∈ ps, p.Genuine) (hq : ∀ q ∈ qs, q.Genuine)
    (h : numbers ps = numbers qs) : ps = qs := by
  have back {points : List CodePoint} (genuine : ∀ p ∈ points, p.Genuine) :
      (numbers points).map CodePoint.ofNumber = points := by
    rw [numbers, List.map_map]
    exact (List.map_congr_left genuine).trans (List.map_id points)
  rw [← back hp, h, back hq]

end Text

namespace Wording

open Text (CodePoint)

/-- No surrogate in the text has the number of a character. -/
def Genuine (w : Wording) : Prop := ∀ p ∈ w.points, p.Genuine

theorem genuine_of_text? {w : Wording} {s : String} (h : w.text? = some s) : w.Genuine := by
  intro p hp
  rw [points_of_text? h] at hp
  obtain ⟨c, _, rfl⟩ := List.mem_map.mp hp
  exact CodePoint.genuine_char c

theorem genuine_plain (s : String) : (plain s).Genuine := genuine_of_text? rfl

theorem Genuine.append {v w : Wording} (hv : v.Genuine) (hw : w.Genuine) : (v ++ w).Genuine := by
  intro p hp
  rw [points_append] at hp
  rcases List.mem_append.mp hp with hp | hp
  · exact hv p hp
  · exact hw p hp

theorem Genuine.reading {w : Wording} (h : w.Genuine) : w.reading.Genuine := by
  intro p hp
  rw [points_reading] at hp
  exact h p hp

theorem Genuine.display {w : Wording} (h : w.Genuine) : w.display.Genuine := by
  cases w with
  | verdict v => exact genuine_plain v.display
  | _ => exact h

/-- Whichever of the two comparisons applies, the numbers of the code points decide. -/
theorem less_iff (a b : Wording) :
    a.less b = true ↔ Text.numbers a.points < Text.numbers b.points := by
  have chars (s t : String) : decide (s < t) = true ↔
      Text.numbers (s.toList.map .char) < Text.numbers (t.toList.map .char) := by
    rw [decide_eq_true_iff, Text.numbers, Text.numbers, List.map_map, List.map_map,
      map_lt_map (f := CodePoint.number ∘ CodePoint.char) (fun _ _ => Iff.rfl)
        fun _ _ => Char.toNat_inj.mp]
    exact Iff.rfl
  unfold less
  split
  · next s t hs ht =>
    rw [points_of_text? hs, points_of_text? ht]
    exact chars s t
  · exact decide_eq_true_iff

end Wording

end Rehearsal
