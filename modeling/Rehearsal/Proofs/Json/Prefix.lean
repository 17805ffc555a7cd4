import Mathlib.Data.List.Forall2
import Rehearsal.Proofs.Json.Quote
import Rehearsal.Proofs.Number.Layout

/-!
# Canonical texts are unambiguous

A text that begins with the canonical text of a plain value, up to a comma or a closing bracket,
determines the value and what follows it. The first character says of what form the value is; a
number or a word ends with what stands behind it, and everything else shows its own end. Nothing is
lost but the order of the entries of an object, which the text sorts away.
-/

namespace Rehearsal.Json

open Text (CodePoint)

mutual

/-- Plain values that differ in the order of entries at most. Doubles are compared by their texts
and texts by what they read as. -/
inductive Alike : Json → Json → Prop where
  | null : Alike .null .null
  | bool (b : Bool) : Alike (.bool b) (.bool b)
  | int (n : Int) : Alike (.int n) (.int n)
  | float {x y : Float} (h : Number.text x = Number.text y) : Alike (.float x) (.float y)
  | text {v w : Wording} (h : v.points = w.points) : Alike (.text v) (.text w)
  | array {xs ys : List Json} (h : List.Forall₂ Alike xs ys) : Alike (.array xs) (.array ys)
  | object {es fs es' fs' : List (Wording × Json)} (he : es.Perm es') (hf : fs.Perm fs')
      (h : List.Forall₂ EntryAlike es' fs') : Alike (.object es) (.object fs)

inductive EntryAlike : Wording × Json → Wording × Json → Prop where
  | entry {k l : Wording} {v w : Json} (name : k.points = l.points) (value : Alike v w) :
      EntryAlike (k, v) (l, w)

end

/-! ## Where a value ends -/

/-- What stands behind a value inside a document. -/
def delimiters : List CodePoint := [.char ',', .char ']', .char '\x7d']

/-- A text that ends or goes on with a delimiter. -/
def Delimited (rest : List CodePoint) : Prop := ∀ p ∈ rest.head?, p ∈ delimiters

theorem delimited_nil : Delimited [] := fun _ h => by cases h

theorem delimited_cons {p : CodePoint} {rest : List CodePoint} (h : p ∈ delimiters) :
    Delimited (p :: rest) := fun q hq => by
  cases hq
  exact h

/-- Words and numbers are as long as there is no delimiter. -/
theorem pointsOf_append_inj {s t : String} {r u : List CodePoint}
    (hs : ∀ c ∈ s.toList, c ∉ [',', ']', '\x7d']) (ht : ∀ c ∈ t.toList, c ∉ [',', ']', '\x7d'])
    (hr : Delimited r) (hu : Delimited u) (h : pointsOf s ++ r = pointsOf t ++ u) :
    s = t ∧ r = u := by
  have inside {s : String} (hs : ∀ c ∈ s.toList, c ∉ [',', ']', '\x7d']) :
      ∀ p ∈ pointsOf s, p ∉ delimiters := by
    intro p hp
    obtain ⟨c, hc, rfl⟩ := List.mem_map.mp hp
    simpa [delimiters] using hs c hc
  obtain ⟨points, rest⟩ := run_append_inj (inside hs) (inside ht)
    (fun p hp => not_not_intro (hr p hp)) (fun p hp => not_not_intro (hu p hp)) h
  refine ⟨String.toList_injective (List.map_injective_iff.mpr ?_ points), rest⟩
  exact fun _ _ => CodePoint.char.inj

/-! ## Integers -/

theorem toString_int (n : Int) : 0 ≤ n ∧ toString n = toString n.natAbs ∨
    n < 0 ∧ toString n = "-" ++ toString n.natAbs := by
  have h : toString n = n.repr := rfl
  rw [h, Int.repr_eq_if]
  split
  · next positive =>
    refine Or.inl ⟨positive, ?_⟩
    rw [show n.toNat = n.natAbs by omega]
    rfl
  · next negative =>
    refine Or.inr ⟨by omega, ?_⟩
    rw [show (-n).toNat = n.natAbs by omega]
    rfl

theorem int_characters {n : Int} {c : Char} (h : c ∈ (toString n).toList) :
    Number.isDigit c = true ∨ c = '-' := by
  obtain ⟨_, hk⟩ | ⟨_, hk⟩ := toString_int n
  · rw [hk] at h
    exact Or.inl (Number.isDigit_of_mem_toString h)
  · rw [hk, String.toList_append] at h
    rcases List.mem_append.mp h with h | h
    · exact Or.inr (by simpa using h)
    · exact Or.inl (Number.isDigit_of_mem_toString h)

theorem toString_nat_inj {m n : Nat} (h : toString m = toString n) : m = n := by
  rw [← Number.ofDigits_toString m, h, Number.ofDigits_toString]

/-- An integer is known from its digits and its sign. -/
theorem int_inj {m n : Int} (h : toString m = toString n) : m = n := by
  have apart {k l : Nat} : toString k ≠ "-" ++ toString l := by
    intro h
    have sign : '-' ∈ (toString k).toList := by simp [h]
    have digit := Number.isDigit_of_mem_toString sign
    revert digit
    decide
  obtain ⟨hm, tm⟩ | ⟨hm, tm⟩ := toString_int m
  · obtain ⟨hn, tn⟩ | ⟨hn, tn⟩ := toString_int n
    · have size : m.natAbs = n.natAbs := toString_nat_inj (tm.symm.trans (h.trans tn))
      omega
    · exact (apart (tm.symm.trans (h.trans tn))).elim
  · obtain ⟨hn, tn⟩ | ⟨hn, tn⟩ := toString_int n
    · exact (apart (tn.symm.trans (h.symm.trans tm))).elim
    · have size : m.natAbs = n.natAbs :=
        toString_nat_inj ((String.append_right_inj "-").mp (tm.symm.trans (h.trans tn)))
      omega

theorem int_undelimited (n : Int) : ∀ c ∈ (toString n).toList, c ∉ [',', ']', '\x7d'] := by
  intro c hc delimiter
  have others : ∀ d ∈ [',', ']', '\x7d'], ¬ (Number.isDigit d = true ∨ d = '-') := by
    simp [Number.isDigit]
  exact others c delimiter (int_characters hc)

theorem int_ne_nil (n : Int) : (toString n).toList ≠ [] := by
  obtain ⟨_, hk⟩ | ⟨_, hk⟩ := toString_int n
  · rw [hk]
    exact Number.toString_ne_nil n.natAbs
  · simp [hk]

/-! ## The form of a value -/

inductive Form where
  | null
  | truth
  | number
  | text
  | array
  | object

/-- The form of a value, which its first character shows. -/
def form : Json → Form
  | .null => .null
  | .bool _ => .truth
  | .int _ | .float _ => .number
  | .text _ => .text
  | .array _ => .array
  | .object _ => .object

/-- The form of the values that begin with a code point. -/
def Form.ofPoint (p : CodePoint) : Form :=
  if p = .char 'n' then .null
  else if p = .char 't' ∨ p = .char 'f' then .truth
  else if p = .char '"' then .text
  else if p = .char '[' then .array
  else if p = .char '\x7b' then .object
  else .number

/-- A text begins as one of a value of some form. -/
def Begins (f : Form) (points : List CodePoint) : Prop :=
  ∃ p rest, points = p :: rest ∧ Form.ofPoint p = f ∧ p ∉ delimiters

theorem begins_number {c : Char} {rest : List CodePoint}
    (h : Number.isDigit c = true ∨ c ∈ ['-', 'N', 'I']) : Begins .number (.char c :: rest) := by
  have others : ∀ d ∈ ['n', 't', 'f', '"', '[', '\x7b', ',', ']', '\x7d'],
      ¬ (Number.isDigit d = true ∨ d ∈ ['-', 'N', 'I']) := by
    simp [Number.isDigit]
  have other : c ∉ ['n', 't', 'f', '"', '[', '\x7b', ',', ']', '\x7d'] := fun hc => others c hc h
  refine ⟨_, rest, rfl, ?_, ?_⟩
  · unfold Form.ofPoint
    simp_all
  · simp_all [delimiters]

theorem write_begins (j : Json) : Begins j.form j.write := by
  cases j with
  | null => exact ⟨_, _, rfl, rfl, by decide⟩
  | bool b => cases b <;> exact ⟨_, _, rfl, rfl, by decide⟩
  | int n =>
    obtain ⟨c, cs, hc⟩ := List.exists_cons_of_ne_nil (int_ne_nil n)
    have first : c ∈ (toString n).toList := hc ▸ List.mem_cons_self ..
    rw [write, pointsOf, hc]
    exact begins_number ((int_characters first).imp_right (by simp +contextual))
  | float x =>
    obtain ⟨c, hc, start⟩ := (Number.Layout.shape x).starts
    obtain ⟨cs, hcs⟩ := List.head?_eq_some_iff.mp hc
    rw [write, pointsOf, hcs]
    exact begins_number start
  | text w => exact ⟨_, _, rfl, rfl, by decide⟩
  | array items => exact ⟨_, _, rfl, rfl, by decide⟩
  | object entries => exact ⟨_, _, rfl, rfl, by decide⟩

theorem write_begins_undelimited (j : Json) : ∃ p rest, j.write = p :: rest ∧ p ∉ delimiters := by
  obtain ⟨p, rest, hj, _, hp⟩ := j.write_begins
  exact ⟨p, rest, hj, hp⟩

theorem form_eq {j k : Json} {r s : List CodePoint} (h : j.write ++ r = k.write ++ s) :
    j.form = k.form := by
  obtain ⟨p, _, hj, hp, _⟩ := j.write_begins
  obtain ⟨q, _, hk, hq, _⟩ := k.write_begins
  rw [hj, hk] at h
  rw [← hp, ← hq, (List.cons.inj h).1]

/-! ## Parts in brackets -/

theorem intercalate_cons {α : Type} (separator part : List α) (parts : List (List α)) :
    separator.intercalate (part :: parts) = part ++ parts.flatMap (separator ++ ·) := by
  induction parts generalizing part with
  | nil => simp [List.intercalate]
  | cons next rest ih =>
    rw [List.intercalate_cons_cons, ih, List.flatMap_cons]
    simp only [List.append_assoc]

section Brackets

variable {α : Type} {R : α → α → Prop} {f : α → List CodePoint} {last : Char}

/-- What begins with a part, up to a delimiter, determines the part and what follows it. -/
def Separable (R : α → α → Prop) (f : α → List CodePoint) (a : α) : Prop :=
  ∀ (b : α) {r s : List CodePoint}, Delimited r → Delimited s → f a ++ r = f b ++ s →
    R a b ∧ r = s

/-- The parts behind the first one, and the end of the brackets. -/
def more (f : α → List CodePoint) (last : Char) (parts : List α) (rest : List CodePoint) :
    List CodePoint :=
  parts.flatMap (fun a => .char ',' :: f a) ++ .char last :: rest

theorem more_cons (a : α) (parts : List α) (rest : List CodePoint) :
    more f last (a :: parts) rest = .char ',' :: (f a ++ more f last parts rest) := by
  simp [more]

theorem delimited_more (hl : .char last ∈ delimiters) (parts : List α) (rest : List CodePoint) :
    Delimited (more f last parts rest) := by
  cases parts with
  | nil => exact delimited_cons hl
  | cons a parts =>
    rw [more_cons]
    exact delimited_cons (by simp [delimiters])

theorem more_inj (hl : .char last ∈ delimiters) (comma : last ≠ ',') :
    ∀ {as bs : List α} {r s : List CodePoint}, (∀ a ∈ as, Separable R f a) →
      more f last as r = more f last bs s → List.Forall₂ R as bs ∧ r = s
  | [], [], r, s, _, h => ⟨.nil, (List.cons.inj h).2⟩
  | [], b :: bs, r, s, _, h => by
    rw [more_cons] at h
    exact (comma (CodePoint.char.inj (List.cons.inj h).1)).elim
  | a :: as, [], r, s, _, h => by
    rw [more_cons] at h
    exact (comma (CodePoint.char.inj (List.cons.inj h).1).symm).elim
  | a :: as, b :: bs, r, s, separable, h => by
    rw [more_cons, more_cons] at h
    obtain ⟨first, rest⟩ := separable a (List.mem_cons_self ..) b (delimited_more hl as r)
      (delimited_more hl bs s) (List.cons.inj h).2
    obtain ⟨others, rfl⟩ := more_inj hl comma
      (fun c hc => separable c (List.mem_cons_of_mem a hc)) rest
    exact ⟨.cons first others, rfl⟩

theorem bracketed_cons (first : Char) (a : α) (parts : List α) (rest : List CodePoint) :
    bracketed first last ((a :: parts).map f) ++ rest =
      .char first :: (f a ++ more f last parts rest) := by
  simp [bracketed, more, intercalate_cons, List.flatMap_map]

/-- A text that begins with parts in brackets determines them, if each of them can be told from what
follows it and none begins with a delimiter. -/
theorem bracketed_append_inj {first : Char} (hl : .char last ∈ delimiters) (comma : last ≠ ',')
    (begins : ∀ a, ∃ p rest, f a = p :: rest ∧ p ∉ delimiters) {as bs : List α}
    {r s : List CodePoint} (separable : ∀ a ∈ as, Separable R f a)
    (h : bracketed first last (as.map f) ++ r = bracketed first last (bs.map f) ++ s) :
    List.Forall₂ R as bs ∧ r = s := by
  have apart {b : α} {bs : List α} {r s : List CodePoint} :
      bracketed first last ([].map f) ++ r ≠ bracketed first last ((b :: bs).map f) ++ s := by
    intro h
    obtain ⟨p, rest, hp, other⟩ := begins b
    rw [bracketed_cons, hp] at h
    exact other ((List.cons.inj (List.cons.inj h).2).1 ▸ hl)
  cases as with
  | nil =>
    cases bs with
    | nil => exact ⟨.nil, List.append_cancel_left h⟩
    | cons b bs => exact (apart h).elim
  | cons a as =>
    cases bs with
    | nil => exact (apart h.symm).elim
    | cons b bs =>
      rw [bracketed_cons, bracketed_cons] at h
      obtain ⟨front, rest⟩ := separable a (List.mem_cons_self ..) b (delimited_more hl as r)
        (delimited_more hl bs s) (List.cons.inj h).2
      obtain ⟨others, rfl⟩ := more_inj hl comma
        (fun c hc => separable c (List.mem_cons_of_mem a hc)) rest
      exact ⟨.cons front others, rfl⟩

end Brackets

/-! ## Whole values -/

def writeEntry (e : Wording × Json) : List CodePoint := quote e.1 ++ .char ':' :: e.2.write

theorem writeAll_eq (items : List Json) : writeAll items = items.map write := by
  induction items with
  | nil => rfl
  | cons item rest ih => rw [writeAll, ih, List.map_cons]

theorem writeEntries_eq (entries : List (Wording × Json)) :
    writeEntries entries = entries.map fun e => (e.1, e.2.write) := by
  induction entries with
  | nil => rfl
  | cons e rest ih =>
    obtain ⟨key, value⟩ := e
    rw [writeEntries, ih, List.map_cons]

/-- The entries are sorted by their names, whatever is written behind them. -/
theorem write_object (entries : List (Wording × Json)) :
    (object entries).write = bracketed '\x7b' '\x7d' ((sortByName entries).map writeEntry) := by
  have sorted : sortByName (entries.map fun e => (e.1, e.2.write)) =
      (sortByName entries).map fun e => (e.1, e.2.write) := by
    unfold sortByName
    exact (List.map_mergeSort (r := fun a b : Wording × Json => !b.1.less a.1)
      (s := fun a b : Wording × List CodePoint => !b.1.less a.1) fun _ _ _ _ => rfl).symm
  rw [write, writeEntries_eq, writeObject, sorted, List.map_map]
  rfl

theorem separable_entry (e : Wording × Json) (h : Separable Alike write e.2) :
    Separable EntryAlike writeEntry e := by
  intro f r s hr hs eq
  simp only [writeEntry, List.append_assoc, List.cons_append] at eq
  obtain ⟨name, eq⟩ := quote_append_inj eq
  obtain ⟨value, rfl⟩ := h f.2 hr hs (List.cons.inj eq).2
  exact ⟨.entry name value, rfl⟩

theorem writeEntry_begins (e : Wording × Json) :
    ∃ p rest, writeEntry e = p :: rest ∧ p ∉ delimiters :=
  ⟨.char '"', _, rfl, by decide⟩

mutual

/-- By induction on the value: the parts of an array or an object can be told apart, so it can be
told from what follows it. -/
theorem write_separable : ∀ j : Json, Separable Alike write j
  | .null, k, r, s, hr, hs, h => by
    have form := form_eq h
    cases k with
    | null => exact ⟨.null, List.append_cancel_left h⟩
    | _ => cases form
  | .bool b, k, r, s, hr, hs, h => by
    have form := form_eq h
    cases k with
    | bool c =>
      cases b <;> cases c
      · exact ⟨.bool false, List.append_cancel_left h⟩
      · cases (List.cons.inj h).1
      · cases (List.cons.inj h).1
      · exact ⟨.bool true, List.append_cancel_left h⟩
    | _ => cases form
  | .int n, k, r, s, hr, hs, h => by
    have form := form_eq h
    cases k with
    | int m =>
      obtain ⟨text, rest⟩ := pointsOf_append_inj (int_undelimited n) (int_undelimited m) hr hs h
      obtain rfl : n = m := int_inj text
      exact ⟨.int n, rest⟩
    | float x =>
      -- The text of a double has a character that no integer has.
      have shape := Number.Layout.shape x
      obtain ⟨text, _⟩ := pointsOf_append_inj (int_undelimited n) shape.undelimited hr hs h
      obtain ⟨c, hc, digit, sign⟩ := shape.marked
      rw [← text] at hc
      rcases int_characters hc with h | h
      · rw [h] at digit
        cases digit
      · exact (sign h).elim
    | _ => cases form
  | .float x, k, r, s, hr, hs, h => by
    have form := form_eq h
    have shape := Number.Layout.shape x
    cases k with
    | int m =>
      obtain ⟨text, _⟩ := pointsOf_append_inj shape.undelimited (int_undelimited m) hr hs h
      obtain ⟨c, hc, digit, sign⟩ := shape.marked
      rw [text] at hc
      rcases int_characters hc with h | h
      · rw [h] at digit
        cases digit
      · exact (sign h).elim
    | float y =>
      -- One canonical text may stand for several doubles, but all of them have one plain text.
      have other := Number.Layout.shape y
      obtain ⟨text, rest⟩ := pointsOf_append_inj shape.undelimited other.undelimited hr hs h
      rw [← text] at other
      exact ⟨.float (shape.text_eq other), rest⟩
    | _ => cases form
  | .text w, k, r, s, hr, hs, h => by
    have form := form_eq h
    cases k with
    | text v =>
      obtain ⟨points, rest⟩ := quote_append_inj h
      exact ⟨.text points, rest⟩
    | _ => cases form
  | .array items, k, r, s, hr, hs, h => by
    have form := form_eq h
    cases k with
    | array others =>
      rw [write, write, writeAll_eq, writeAll_eq] at h
      obtain ⟨alike, rest⟩ := bracketed_append_inj (by decide) (by decide)
        write_begins_undelimited
        (items_separable items) h
      exact ⟨.array alike, rest⟩
    | _ => cases form
  | .object entries, k, r, s, hr, hs, h => by
    have form := form_eq h
    cases k with
    | object others =>
      rw [write_object, write_object] at h
      obtain ⟨alike, rest⟩ := bracketed_append_inj (by decide) (by decide) writeEntry_begins
        (fun e he => separable_entry e (entries_separable entries e (List.mem_mergeSort.mp he))) h
      exact ⟨.object (List.mergeSort_perm ..).symm (List.mergeSort_perm ..).symm alike, rest⟩
    | _ => cases form

theorem items_separable : ∀ items : List Json, ∀ j ∈ items, Separable Alike write j
  | [], _, h => by cases h
  | item :: rest, j, h => by
    rcases List.mem_cons.mp h with h | h
    · rw [h]
      exact write_separable item
    · exact items_separable rest j h

theorem entries_separable : ∀ entries : List (Wording × Json), ∀ e ∈ entries,
    Separable Alike write e.2
  | [], _, h => by cases h
  | (key, value) :: rest, e, h => by
    rcases List.mem_cons.mp h with h | h
    · rw [h]
      exact write_separable value
    · exact entries_separable rest e h

end

/-- Values with one canonical text are alike. -/
theorem alike_of_write {j k : Json} (h : j.write = k.write) : Alike j k :=
  (write_separable j k delimited_nil delimited_nil (congrArg (· ++ []) h)).1

end Rehearsal.Json
