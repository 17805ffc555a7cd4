import Rehearsal.Json.Canonical
import Rehearsal.Proofs.Json.Prefix
import Rehearsal.Proofs.Run.Trace
import Rehearsal.Proofs.Value.Joined

/-!
# What canonical bytes stand for

A value has canonical bytes if every part of it has a plain form, no integer in it is too long to be
written and no text in it holds a surrogate. Values with the same bytes have one canonical text, so
their plain forms are alike.
-/

namespace Rehearsal

open Text (CodePoint)

namespace Wording

/-- Whether all code points are characters. -/
def paired (w : Wording) : Bool := w.points.all (!·.isSurrogate)

theorem chars_of_firstSurrogates {points : List CodePoint} {position : Nat}
    (h : Text.firstSurrogates? position points = none) :
    ∃ cs : List Char, points = cs.map .char := by
  induction points generalizing position with
  | nil => exact ⟨[], rfl⟩
  | cons p rest ih =>
    cases p with
    | char c =>
      obtain ⟨cs, rfl⟩ := ih h
      exact ⟨c :: cs, rfl⟩
    | surrogate n => cases h

theorem firstSurrogates_of_paired {points : List CodePoint} (position : Nat)
    (h : ∀ p ∈ points, p.isSurrogate = false) : Text.firstSurrogates? position points = none := by
  induction points generalizing position with
  | nil => rfl
  | cons p rest ih =>
    cases p with
    | char c => exact ih (position + 1) fun q hq => h q (List.mem_cons_of_mem _ hq)
    | surrogate n => cases h _ (List.mem_cons_self ..)

theorem mapM_char (cs : List Char) : (cs.map CodePoint.char).mapM CodePoint.char? = some cs := by
  induction cs with
  | nil => rfl
  | cons c cs ih => rw [List.map_cons, List.mapM_cons, ih]; rfl

theorem ofPoints_chars (cs : List Char) :
    ofPoints (cs.map .char) = .plain (String.ofList cs) := by
  rw [ofPoints, mapM_char]

/-- Code points that have bytes are characters, and the bytes are theirs. -/
theorem encode_ofPoints {points : List CodePoint} {bytes : Text.Bytes}
    (h : (ofPoints points).encode = .ok bytes) :
    ∃ cs : List Char, points = cs.map .char ∧ bytes = Text.encode (String.ofList cs) := by
  unfold encode at h
  rw [points_ofPoints] at h
  split at h
  · cases h
  · next none =>
    obtain ⟨cs, rfl⟩ := chars_of_firstSurrogates none
    rw [ofPoints_chars] at h
    cases h
    exact ⟨cs, rfl, rfl⟩

theorem encode_inj {ps qs : List CodePoint} {bytes : Text.Bytes}
    (hp : (ofPoints ps).encode = .ok bytes) (hq : (ofPoints qs).encode = .ok bytes) : ps = qs := by
  obtain ⟨cs, rfl, hc⟩ := encode_ofPoints hp
  obtain ⟨ds, rfl, hd⟩ := encode_ofPoints hq
  have text := Text.encode_inj (hc.symm.trans hd)
  rw [String.ofList_inj.mp text]

end Wording

theorem Outcome.mapError_eq_ok {α ε : Type} {x : Except ε α} {f : ε → Error} {a : α} :
    x.mapError f = .ok a ↔ x = .ok a := by
  cases x <;> simp [Except.mapError]

namespace Value

/-- What it takes to have canonical bytes, and which they are. -/
theorem canonicalBytes_eq_ok {v : Value} {bytes : Text.Bytes} :
    v.canonicalBytes = .ok bytes ↔
      v.obstacle? [] = Option.none ∧ (v.plain []).holdsLong = false ∧
        (Wording.ofPoints (v.plain []).write).encode = .ok bytes := by
  unfold canonicalBytes canonicalText canonicalize
  cases v.obstacle? [] with
  | some e => simp [bind, Except.bind]
  | none =>
    cases long : (v.plain []).holdsLong with
    | true => simp [bind, Except.bind, long]
    | false => simp [bind, Except.bind, long, pure, Except.pure, Outcome.mapError_eq_ok]

/-- Values with the same canonical bytes have plain forms that are alike. -/
theorem alike_of_canonicalBytes {v w : Value} {bytes : Text.Bytes}
    (hv : v.canonicalBytes = .ok bytes) (hw : w.canonicalBytes = .ok bytes) :
    Json.Alike (v.plain []) (w.plain []) := by
  obtain ⟨_, _, hv⟩ := canonicalBytes_eq_ok.mp hv
  obtain ⟨_, _, hw⟩ := canonicalBytes_eq_ok.mp hw
  exact Json.alike_of_write (Wording.encode_inj hv hw)

end Value

namespace Json

mutual

/-- Whether no text in a plain value holds a surrogate. -/
def paired : Json → Bool
  | text w => w.paired
  | array items => allPaired items
  | object entries => entriesPaired entries
  | _ => true

def allPaired : List Json → Bool
  | [] => true
  | item :: rest => item.paired && allPaired rest

def entriesPaired : List (Wording × Json) → Bool
  | [] => true
  | (key, value) :: rest => key.paired && value.paired && entriesPaired rest

end

/-! What holds of all characters and of the code points of all texts holds of the canonical text. -/

section

variable {Q : CodePoint → Prop} (chars : ∀ c, Q (.char c))

include chars

theorem forall_pointsOf (s : String) : ∀ p ∈ pointsOf s, Q p := by
  intro p hp
  obtain ⟨c, _, rfl⟩ := List.mem_map.mp hp
  exact chars c

theorem forall_quote {w : Wording} (h : ∀ p ∈ w.points, Q p) : ∀ p ∈ quote w, Q p := by
  intro p hp
  simp only [quote, List.mem_append, List.mem_cons, List.mem_flatMap, List.not_mem_nil,
    or_false] at hp
  obtain (rfl | ⟨q, hq, hp⟩) | rfl := hp
  · exact chars _
  · cases q with
    | char c =>
      obtain ⟨d, _, rfl⟩ := List.mem_map.mp hp
      exact chars d
    | surrogate n =>
      rw [List.mem_singleton.mp hp]
      exact h _ hq
  · exact chars _

theorem forall_bracketed {first last : Char} {parts : List (List CodePoint)}
    (h : ∀ part ∈ parts, ∀ p ∈ part, Q p) : ∀ p ∈ bracketed first last parts, Q p := by
  intro p hp
  simp only [bracketed, List.mem_append, List.mem_cons, List.not_mem_nil, or_false] at hp
  obtain (rfl | hp) | rfl := hp
  · exact chars _
  · cases parts with
    | nil => cases hp
    | cons part rest =>
      rw [intercalate_cons, List.mem_append, List.mem_flatMap] at hp
      obtain hp | ⟨q, hq, hp⟩ := hp
      · exact h part (List.mem_cons_self ..) p hp
      · rcases List.mem_append.mp hp with hp | hp
        · rw [List.mem_singleton.mp hp]
          exact chars _
        · exact h q (List.mem_cons_of_mem part hq) p hp
  · exact chars _

theorem forall_writeEntry {e : Wording × Json} (name : ∀ p ∈ e.1.points, Q p)
    (value : ∀ p ∈ e.2.write, Q p) : ∀ p ∈ writeEntry e, Q p := by
  intro p hp
  simp only [writeEntry, List.mem_append, List.mem_cons] at hp
  obtain hp | rfl | hp := hp
  · exact forall_quote chars name p hp
  · exact chars _
  · exact value p hp

theorem forall_array {items : List Json} (h : ∀ item ∈ items, ∀ p ∈ item.write, Q p) :
    ∀ p ∈ (array items).write, Q p := by
  rw [write, writeAll_eq]
  apply forall_bracketed chars
  intro part hp
  obtain ⟨item, hi, rfl⟩ := List.mem_map.mp hp
  exact h item hi

theorem forall_object {entries : List (Wording × Json)}
    (names : ∀ e ∈ entries, ∀ p ∈ e.1.points, Q p) (values : ∀ e ∈ entries, ∀ p ∈ e.2.write, Q p) :
    ∀ p ∈ (object entries).write, Q p := by
  rw [write_object]
  apply forall_bracketed chars
  intro part hp
  obtain ⟨e, he, rfl⟩ := List.mem_map.mp hp
  have inside : e ∈ entries := List.mem_mergeSort.mp he
  exact forall_writeEntry chars (names e inside) (values e inside)

theorem forall_fields {fields : List (String × Json)} (h : ∀ f ∈ fields, ∀ p ∈ f.2.write, Q p) :
    ∀ p ∈ (ofFields fields).write, Q p := by
  apply forall_object chars
  · intro e he p hp
    obtain ⟨f, _, rfl⟩ := List.mem_map.mp he
    obtain ⟨c, _, rfl⟩ := List.mem_map.mp hp
    exact chars c
  · intro e he
    obtain ⟨f, hf, rfl⟩ := List.mem_map.mp he
    exact h f hf

end

/-- All code points are characters, so that there are bytes. -/
def Characters (points : List CodePoint) : Prop := ∀ p ∈ points, p.isSurrogate = false

theorem isSurrogate_char (c : Char) : (CodePoint.char c).isSurrogate = false := rfl

theorem characters_of_paired {w : Wording} (h : w.paired = true) : Characters w.points := by
  intro p hp
  have character := List.all_eq_true.mp h p hp
  rwa [Bool.not_eq_true'] at character

mutual

/-- The canonical text of a value without surrogates holds none. -/
theorem characters_write : ∀ j : Json, j.paired = true → Characters j.write
  | .null, _ => forall_pointsOf isSurrogate_char "null"
  | .bool true, _ => forall_pointsOf isSurrogate_char "true"
  | .bool false, _ => forall_pointsOf isSurrogate_char "false"
  | .int n, _ => forall_pointsOf isSurrogate_char (toString n)
  | .float x, _ => forall_pointsOf isSurrogate_char (Number.canonicalLayout.write x)
  | .text _, h => forall_quote isSurrogate_char (characters_of_paired h)
  | .array items, h => forall_array isSurrogate_char (characters_items items h)
  | .object entries, h =>
    forall_object isSurrogate_char (fun e he => (characters_entries entries h e he).1)
      fun e he => (characters_entries entries h e he).2

theorem characters_items : ∀ items : List Json, allPaired items = true →
    ∀ item ∈ items, Characters item.write
  | [], _, _, hi => by cases hi
  | item :: rest, h, other, hi => by
    obtain ⟨first, others⟩ := Bool.and_eq_true_iff.mp h
    rcases List.mem_cons.mp hi with hi | hi
    · rw [hi]
      exact characters_write item first
    · exact characters_items rest others other hi

theorem characters_entries : ∀ entries : List (Wording × Json), entriesPaired entries = true →
    ∀ e ∈ entries, Characters e.1.points ∧ Characters e.2.write
  | [], _, _, he => by cases he
  | (key, value) :: rest, h, e, he => by
    obtain ⟨first, others⟩ := Bool.and_eq_true_iff.mp h
    obtain ⟨name, inner⟩ := Bool.and_eq_true_iff.mp first
    rcases List.mem_cons.mp he with he | he
    · rw [he]
      exact ⟨characters_of_paired name, characters_write value inner⟩
    · exact characters_entries rest others e he

end

end Json

/-- Every value has canonical bytes whose parts have plain forms without long integers and without
surrogates. -/
theorem Value.canonicalBytes_of_paired {v : Value} (reducible : v.obstacle? [] = Option.none)
    (short : (v.plain []).holdsLong = false) (paired : (v.plain []).paired = true) :
    ∃ bytes, v.canonicalBytes = .ok bytes := by
  have encodes : ∃ bytes, (Wording.ofPoints (v.plain []).write).encode = .ok bytes := by
    have whole := Wording.firstSurrogates_of_paired 0 (Json.characters_write (v.plain []) paired)
    rw [Wording.encode, Wording.points_ofPoints, whole]
    exact ⟨_, rfl⟩
  obtain ⟨bytes, h⟩ := encodes
  exact ⟨bytes, canonicalBytes_eq_ok.mpr ⟨reducible, short, h⟩⟩

end Rehearsal
