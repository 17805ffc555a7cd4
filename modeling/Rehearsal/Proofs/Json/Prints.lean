import Mathlib.Data.List.Nodup
import Rehearsal.Proofs.Json.CanonicalBytes
import Rehearsal.Proofs.Text.Order

/-!
# Plain values with one text

Two plain values have one text if they differ in the order of entries, of items that are sorted by
their texts, or in parts that have one text themselves. Both sorts are by numbers of code points:
items with the same numbers have the same text, and entries with the same numbers are one entry.
-/

namespace Rehearsal

theorem map_eq_of_forall₂ {α β γ : Type} {f : α → γ} {g : β → γ} {as : List α} {bs : List β}
    (h : List.Forall₂ (fun a b => f a = g b) as bs) : as.map f = bs.map g := by
  induction h with
  | nil => rfl
  | cons first _ ih => rw [List.map_cons, List.map_cons, first, ih]

theorem forall₂_map {α β γ δ : Type} {R : γ → δ → Prop} {f : α → γ} {g : β → δ} {as : List α}
    {bs : List β} (h : List.Forall₂ (fun a b => R (f a) (g b)) as bs) :
    List.Forall₂ R (as.map f) (bs.map g) :=
  List.forall₂_map_left_iff.mpr (List.forall₂_map_right_iff.mpr h)

namespace Json

/-- Plain values with the same text, or with an integer that is too long for one. -/
structure Prints (a b : Json) : Prop where
  long : a.holdsLong = b.holdsLong
  text : a.write = b.write

theorem anyHoldsLong_eq (items : List Json) : anyHoldsLong items = items.any holdsLong := by
  induction items with
  | nil => rfl
  | cons item rest ih => rw [anyHoldsLong, ih, List.any_cons]

theorem anyHoldsLong_of_perm {xs ys : List Json} (perm : xs.Perm ys) :
    anyHoldsLong xs = anyHoldsLong ys := by
  rw [anyHoldsLong_eq, anyHoldsLong_eq, perm.any_eq]

theorem holdsLong_sortByText (items : List Json) :
    (array (sortByText items)).holdsLong = anyHoldsLong items := by
  rw [holdsLong]
  exact anyHoldsLong_of_perm (List.mergeSort_perm items notAfter)

theorem anyEntryHoldsLong_eq (entries : List (Wording × Json)) :
    anyEntryHoldsLong entries = entries.any (·.2.holdsLong) := by
  induction entries with
  | nil => rfl
  | cons e rest ih => rw [anyEntryHoldsLong, ih, List.any_cons]

theorem holdsLong_of_field {fields : List (String × Json)} {f : String × Json} (hf : f ∈ fields)
    (long : f.2.holdsLong = true) : (ofFields fields).holdsLong = true := by
  rw [ofFields, holdsLong, anyEntryHoldsLong_eq, List.any_map]
  exact List.any_eq_true.mpr ⟨f, hf, long⟩

/-! ## Sorted items and sorted entries -/

/-- Items are sorted as their texts are. -/
theorem map_sortByText (items : List Json) :
    (sortByText items).map write = (items.map write).mergeSort fun p q =>
      decide ¬ Text.numbers q < Text.numbers p :=
  List.map_mergeSort fun _ _ _ _ => rfl

theorem sortByText_texts {xs ys : List Json} (perm : (xs.map write).Perm (ys.map write))
    (genuine : ∀ x ∈ xs, ∀ p ∈ x.write, p.Genuine) :
    (sortByText xs).map write = (sortByText ys).map write := by
  have genuineText : ∀ text ∈ xs.map write, ∀ p ∈ text, p.Genuine := by
    intro text ht
    obtain ⟨x, hx, rfl⟩ := List.mem_map.mp ht
    exact genuine x hx
  rw [map_sortByText, map_sortByText]
  refine mergeSort_eq_of_perm Text.numbers ?_ perm ?_
  · intro p q
    exact decide_eq_true_iff
  · intro p hp q hq
    exact Text.numbers_inj (genuineText p hp) (genuineText q hq)

/-- Entries with distinct names have one order. -/
theorem sortByName_eq_of_perm {α : Type} {es fs : List (Wording × α)} (perm : es.Perm fs)
    (genuine : ∀ e ∈ es, e.1.Genuine) (distinct : (es.map (·.1.points)).Nodup) :
    sortByName es = sortByName fs := by
  refine mergeSort_eq_of_perm (fun e => Text.numbers e.1.points) ?_ perm ?_
  · intro e f
    rw [Bool.not_eq_true', ← Bool.not_eq_true, Wording.less_iff]
  · intro e he f hf same
    exact List.inj_on_of_nodup_map distinct he hf
      (Text.numbers_inj (genuine e he) (genuine f hf) same)

namespace Prints

theorem refl (a : Json) : a.Prints a := ⟨rfl, rfl⟩

theorem items {xs ys : List Json} (h : List.Forall₂ Prints xs ys) :
    xs.map write = ys.map write ∧ anyHoldsLong xs = anyHoldsLong ys := by
  have texts : xs.map write = ys.map write := map_eq_of_forall₂ (h.imp fun _ _ both => both.text)
  have longs : xs.map holdsLong = ys.map holdsLong :=
    map_eq_of_forall₂ (h.imp fun _ _ both => both.long)
  have any (items : List Json) : anyHoldsLong items = (items.map holdsLong).any id := by
    rw [anyHoldsLong_eq, List.any_map]
    rfl
  rw [any, any, longs]
  exact ⟨texts, rfl⟩

theorem array {xs ys : List Json} (h : List.Forall₂ Prints xs ys) :
    (Json.array xs).Prints (.array ys) where
  long := by rw [holdsLong, holdsLong, (items h).2]
  text := by rw [write, write, writeAll_eq, writeAll_eq, (items h).1]

/-- Items that are sorted by their texts may come in any order. -/
theorem sorted {xs mid ys : List Json} (perm : xs.Perm mid) (h : List.Forall₂ Prints mid ys)
    (genuine : ∀ x ∈ xs, ∀ p ∈ x.write, p.Genuine) :
    (Json.array (sortByText xs)).Prints (.array (sortByText ys)) where
  long := by
    rw [holdsLong_sortByText, holdsLong_sortByText, anyHoldsLong_of_perm perm, (items h).2]
  text := by
    have texts : (xs.map write).Perm (ys.map write) := by
      rw [← (items h).1]
      exact perm.map write
    rw [write, write, writeAll_eq, writeAll_eq, sortByText_texts texts genuine]

/-- Entries of the same name that print alike. -/
def Entry (e f : Wording × Json) : Prop := e.1 = f.1 ∧ e.2.Prints f.2

theorem entries {es fs : List (Wording × Json)} (h : List.Forall₂ Entry es fs) :
    writeEntries es = writeEntries fs ∧ anyEntryHoldsLong es = anyEntryHoldsLong fs := by
  induction h with
  | nil => exact ⟨rfl, rfl⟩
  | @cons e f es fs first _ ih =>
    obtain ⟨name, value⟩ := first
    rw [writeEntries, writeEntries, anyEntryHoldsLong, anyEntryHoldsLong, name, value.text,
      value.long, ih.1, ih.2]
    exact ⟨rfl, rfl⟩

/-- Entries in their order need no distinct names. -/
theorem object {es fs : List (Wording × Json)} (h : List.Forall₂ Entry es fs) :
    (Json.object es).Prints (.object fs) where
  long := by rw [holdsLong, holdsLong, (entries h).2]
  text := by rw [write, write, (entries h).1]

theorem fields {fs gs : List (String × Json)}
    (h : List.Forall₂ (fun f g => f.1 = g.1 ∧ f.2.Prints g.2) fs gs) :
    (ofFields fs).Prints (ofFields gs) := by
  exact object (forall₂_map (h.imp fun _ _ same => ⟨congrArg Wording.plain same.1, same.2⟩))

/-- Entries with distinct names may come in any order. -/
theorem reordered {es mid fs : List (Wording × Json)} (perm : es.Perm mid)
    (h : List.Forall₂ Entry mid fs) (genuine : ∀ e ∈ es, e.1.Genuine)
    (distinct : (es.map (·.1.points)).Nodup) : (Json.object es).Prints (.object fs) where
  long := by
    rw [holdsLong, holdsLong, ← (entries h).2, anyEntryHoldsLong_eq, anyEntryHoldsLong_eq,
      perm.any_eq]
  text := by
    have same : (Json.object es).write = (Json.object mid).write := by
      rw [write_object, write_object, sortByName_eq_of_perm perm genuine distinct]
    rw [same, write, write, (entries h).1]

end Prints

end Json

end Rehearsal
