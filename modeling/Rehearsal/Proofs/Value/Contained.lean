import Mathlib.Data.List.Forall2
import Rehearsal.Containment
import Rehearsal.Proofs.Value.Joined
import Rehearsal.Proofs.Value.Whole

/-!
# What containment decides

A text occurs in a text, a byte string in a byte string, and any sequence in any other one exactly
if its elements stand in a row among the elements of the other. The search for characters and for
bytes and the comparison of every window of the elements come to the same.
-/

namespace Rehearsal

section Windows

variable {α : Type} {same : α → α → Bool}

theorem startsWith_iff {needle items : List α} :
    startsWith same needle items = true ↔
      ∃ window after, items = window ++ after ∧
        List.Forall₂ (fun x y => same x y = true) needle window := by
  induction needle generalizing items with
  | nil => exact ⟨fun _ => ⟨[], items, rfl, .nil⟩, fun _ => by rw [startsWith]⟩
  | cons x xs ih =>
    cases items with
    | nil =>
      constructor
      · nofun
      · rintro ⟨window, after, split, alike⟩
        cases alike
        cases split
    | cons y ys =>
      rw [startsWith, Bool.and_eq_true, ih]
      constructor
      · rintro ⟨first, window, after, rfl, rest⟩
        exact ⟨y :: window, after, rfl, .cons first rest⟩
      · rintro ⟨window, after, split, alike⟩
        cases alike with
        | cons first rest =>
          cases split
          exact ⟨first, _, after, rfl, rest⟩

theorem containsWindow_iff {needle items : List α} :
    containsWindow same needle items = true ↔
      ∃ before window after, items = before ++ (window ++ after) ∧
        List.Forall₂ (fun x y => same x y = true) needle window := by
  induction items with
  | nil =>
    rw [containsWindow, List.isEmpty_iff]
    constructor
    · rintro rfl
      exact ⟨[], [], [], rfl, .nil⟩
    · rintro ⟨before, window, after, split, alike⟩
      obtain ⟨-, rfl, -⟩ : before = [] ∧ window = [] ∧ after = [] := by simpa using split.symm
      cases alike
      rfl
  | cons y ys ih =>
    rw [containsWindow, Bool.or_eq_true, startsWith_iff, ih]
    constructor
    · rintro (⟨window, after, split, alike⟩ | ⟨before, window, after, rfl, alike⟩)
      · exact ⟨[], window, after, split, alike⟩
      · exact ⟨y :: before, window, after, rfl, alike⟩
    · rintro ⟨before, window, after, split, alike⟩
      cases before with
      | nil => exact .inl ⟨window, after, split, alike⟩
      | cons _ before =>
        cases split
        exact .inr ⟨before, window, after, rfl, alike⟩

theorem startsWith_map {β : Type} (f : β → α) (needle items : List β) :
    startsWith same (needle.map f) (items.map f) =
      startsWith (fun x y => same (f x) (f y)) needle items := by
  induction needle generalizing items with
  | nil => rw [List.map_nil, startsWith, startsWith]
  | cons x xs ih =>
    cases items with
    | nil => rfl
    | cons y ys => rw [List.map_cons, List.map_cons, startsWith, startsWith, ih]

theorem containsWindow_map {β : Type} (f : β → α) (needle items : List β) :
    containsWindow same (needle.map f) (items.map f) =
      containsWindow (fun x y => same (f x) (f y)) needle items := by
  induction items with
  | nil => rw [List.map_nil, containsWindow, containsWindow, List.isEmpty_map]
  | cons y ys ih =>
    rw [List.map_cons, containsWindow, containsWindow, ih, ← List.map_cons, startsWith_map]

end Windows

namespace Value

/-! ## Elements of sequences -/

def IsSequence : Value → Prop
  | text _ | bytes _ | list _ | tuple _ => True
  | _ => False

theorem alike_characters (p q : Text.CodePoint) :
    (text (.ofPoints [q])).alike (text (.ofPoints [p])) = (p == q) := by
  have points : Wording.ofPoints [q] = .ofPoints [p] ↔ p = q := by
    constructor
    · intro h
      simpa [eq_comm] using congrArg Wording.points h
    · rintro rfl
      rfl
  change (text (.ofPoints [q])).same (text (.ofPoints [p])) = _
  rw [same, Wording.same, Wording.reading_ofPoints, Wording.reading_ofPoints, Bool.eq_iff_iff,
    decide_eq_true_iff, points, beq_iff_eq]

theorem alike_bytes (a b : UInt8) : (int b.toNat).alike (int a.toNat) = (a == b) := by
  have numbers : (Number.int b.toNat).same (.int a.toNat) = (b.toNat == a.toNat) := by
    rw [Number.same, Number.compare_whole rfl rfl, Bool.eq_iff_iff]
    simp only [beq_iff_eq, Option.some.injEq, Int.compare_eq_eq, Int.natCast_inj]
  change (int b.toNat).same (int a.toNat) = _
  rw [same, number?, Option.any_some, numbers, Bool.eq_iff_iff, beq_iff_eq, beq_iff_eq,
    UInt8.toNat_inj, eq_comm]

/-- Texts and byte strings are searched as any other sequences would be. -/
theorem occursIn_elements {x y : Value} (hx : x.IsSequence) (hy : y.IsSequence) :
    ∃ xs ys, x.elements = .ok xs ∧ y.elements = .ok ys ∧
      x.occursIn y = .ok (containsWindow (fun x y => y.alike x) xs ys) := by
  cases x with
  | text a =>
    cases y with
    | text b =>
      refine ⟨_, _, rfl, rfl, ?_⟩
      rw [occursIn, Wording.characters, Wording.characters, List.map_map, List.map_map,
        containsWindow_map]
      simp only [Function.comp_apply, alike_characters]
    | bytes _ | list _ | tuple _ => exact ⟨_, _, rfl, rfl, rfl⟩
    | _ => exact hy.elim
  | bytes a =>
    cases y with
    | bytes b =>
      refine ⟨_, _, rfl, rfl, ?_⟩
      rw [occursIn, containsWindow_map]
      simp only [alike_bytes]
    | text _ | list _ | tuple _ => exact ⟨_, _, rfl, rfl, rfl⟩
    | _ => exact hy.elim
  | list _ | tuple _ =>
    cases y with
    | text _ | bytes _ | list _ | tuple _ => exact ⟨_, _, rfl, rfl, rfl⟩
    | _ => exact hy.elim
  | _ => exact hx.elim

/-! ## Rows of elements -/

theorem same_lists {xs ys : List Value} :
    (list xs).same (list ys) = true ↔ List.Forall₂ (fun x y => x.alike y = true) xs ys := by
  rw [same]
  induction xs generalizing ys with
  | nil => cases ys <;> simp [alikeAll]
  | cons x xs ih =>
    cases ys with
    | nil => simp [alikeAll]
    | cons y ys => rw [alikeAll, Bool.and_eq_true, ih, List.forall₂_cons, alike]

/-- Some elements in a row equal, as a list, those that are looked for. -/
def Contained (needle haystack : List Value) : Prop :=
  ∃ before window after, haystack = before ++ (window ++ after) ∧
    (list window).same (list needle) = true

theorem containsWindow_contained {xs ys : List Value} :
    containsWindow (fun x y => y.alike x) xs ys = true ↔ Contained xs ys := by
  simp only [containsWindow_iff, Contained, same_lists]
  constructor
  · rintro ⟨before, window, after, split, alike⟩
    exact ⟨before, window, after, split, alike.flip⟩
  · rintro ⟨before, window, after, split, alike⟩
    exact ⟨before, window, after, split, alike.flip⟩

/-- The comparison of every window of its length with a list. -/
def scan (needle haystack : List Value) : Bool :=
  (List.range (haystack.length + 1 - needle.length)).any fun i =>
    (list ((haystack.drop i).take needle.length)).same (list needle)

theorem contained_at {xs ys : List Value} (i : Nat)
    (same : (list ((ys.drop i).take xs.length)).same (list xs) = true) : Contained xs ys := by
  refine ⟨ys.take i, _, (ys.drop i).drop xs.length, ?_, same⟩
  rw [List.take_append_drop, List.take_append_drop]

theorem scan_contained {xs ys : List Value} : scan xs ys = true ↔ Contained xs ys := by
  simp only [scan, List.any_eq_true, List.mem_range]
  constructor
  · rintro ⟨i, -, same⟩
    exact contained_at i same
  · rintro ⟨before, window, after, rfl, same⟩
    have length : window.length = xs.length := (same_lists.mp same).length_eq
    refine ⟨before.length, by simp only [List.length_append]; omega, ?_⟩
    rw [List.drop_left, ← length, List.take_left]
    exact same

/-- What stands in a list that is equal to another one is contained in that one. -/
theorem contained_of_row {before xs after ys : List Value}
    (row : (list ys).same (list (before ++ xs ++ after)) = true) : Contained xs ys := by
  rw [List.append_assoc] at row
  have tail := List.forall₂_drop_append _ before (xs ++ after) (same_lists.mp row)
  exact contained_at before.length (same_lists.mpr (List.forall₂_take_append _ xs after tail))

/-- Where each element is like itself, what is contained stands in a list that is equal. -/
theorem Contained.row {xs ys : List Value} (contained : Contained xs ys)
    (alike : ∀ y ∈ ys, y.alike y = true) :
    ∃ before after, (list ys).same (list (before ++ xs ++ after)) = true := by
  obtain ⟨before, window, after, rfl, same⟩ := contained
  simp only [List.forall_mem_append] at alike
  obtain ⟨first, -, last⟩ := alike
  refine ⟨before, after, ?_⟩
  rw [List.append_assoc, same_lists]
  exact List.rel_append (List.forall₂_same.mpr first)
    (List.rel_append (same_lists.mp same) (List.forall₂_same.mpr last))

/-- What it means for one sequence to occur in another or not. -/
structure Decides (x y : Value) (xs ys : List Value) (occurs : Bool) : Prop where
  needle : x.elements = .ok xs
  haystack : y.elements = .ok ys
  found : x.occursIn y = .ok occurs
  /-- Every window of the elements is compared. -/
  scanned : occurs = scan xs ys
  contained : occurs = true ↔ Contained xs ys
  /-- The elements are equal to some before, those of the other, and some after them. -/
  row : (∀ item ∈ ys, item.alike item = true) →
    (occurs = true ↔ ∃ before after, (list ys).same (list (before ++ xs ++ after)) = true)

theorem occursIn_decides {x y : Value} (hx : x.IsSequence) (hy : y.IsSequence) :
    ∃ xs ys occurs, Decides x y xs ys occurs := by
  obtain ⟨xs, ys, needle, haystack, found⟩ := occursIn_elements hx hy
  refine ⟨xs, ys, _, needle, haystack, found, ?_, containsWindow_contained, fun alike => ?_⟩
  · rw [Bool.eq_iff_iff, containsWindow_contained, scan_contained]
  · rw [containsWindow_contained]
    exact ⟨fun contained => contained.row alike, fun ⟨_, _, row⟩ => contained_of_row row⟩

end Value

end Rehearsal
