import Rehearsal.Proofs.Json.Snapshot
import Rehearsal.Proofs.Number.Word

/-!
# Reduced data

A plain value is reduced if its texts are no verdicts, the names in each of its objects differ and
none of them is a dropped one. Reduced data, taken for a value, is its own plain form, also when
fewer names are dropped.
-/

namespace Rehearsal

theorem Wording.same_iff {a b : Wording} : a.same b = true ↔ a.reading = b.reading :=
  decide_eq_true_iff

namespace Json

/-! ## Dropped names -/

/-- Names that are all dropped. -/
def Fewer (fewer drop : List Wording) : Prop := ∀ name ∈ fewer, isDropped drop name = true

theorem isDropped_iff {drop : List Wording} {name : Wording} :
    isDropped drop name = true ↔ ∃ d ∈ drop, name.reading = d.reading := by
  rw [isDropped, List.any_eq_true]
  exact exists_congr fun d => and_congr_right fun _ => Wording.same_iff

theorem Fewer.kept {fewer drop : List Wording} (h : Fewer fewer drop) {name : Wording}
    (kept : isDropped drop name = false) : isDropped fewer name = false := by
  by_contra dropped
  obtain ⟨d, hd, same⟩ := isDropped_iff.mp (Bool.not_eq_false _ ▸ dropped)
  obtain ⟨other, ho, read⟩ := isDropped_iff.mp (h d hd)
  have reads : isDropped drop name = true := isDropped_iff.mpr ⟨other, ho, same.trans read⟩
  rw [kept] at reads
  cases reads

mutual

/-- A plain value without the dropped names, at any depth. -/
def without (drop : List Wording) : Json → Json
  | .array items => .array (withoutAll drop items)
  | .object entries => .object (withoutEntries drop entries)
  | j => j

def withoutAll (drop : List Wording) : List Json → List Json
  | [] => []
  | item :: rest => item.without drop :: withoutAll drop rest

def withoutEntries (drop : List Wording) : List (Wording × Json) → List (Wording × Json)
  | [] => []
  | (name, value) :: rest =>
    if isDropped drop name then withoutEntries drop rest
    else (name, value.without drop) :: withoutEntries drop rest

end

theorem withoutAll_eq (drop : List Wording) (items : List Json) :
    withoutAll drop items = items.map (without drop) := by
  induction items with
  | nil => rfl
  | cons item rest ih => rw [withoutAll, ih, List.map_cons]

theorem withoutEntries_eq (drop : List Wording) (entries : List (Wording × Json)) :
    withoutEntries drop entries =
      (entries.filter fun e => !isDropped drop e.1).map fun e => (e.1, e.2.without drop) := by
  induction entries with
  | nil => rfl
  | cons e rest ih =>
    obtain ⟨name, value⟩ := e
    rw [withoutEntries, ih, List.filter_cons]
    cases isDropped drop name <;> rfl

/-! ## Reduced data -/

/-- Plain data in which every text is read as it is, no object has two entries of one name and no
entry has a dropped one. -/
inductive Reduced (drop : List Wording) : Json → Prop where
  | null : Reduced drop .null
  | bool (b : Bool) : Reduced drop (.bool b)
  | int (n : Int) : Reduced drop (.int n)
  | float (x : Float) : Reduced drop (.float x)
  | text {w : Wording} (read : w.reading = w) : Reduced drop (.text w)
  | array {items : List Json} (each : ∀ item ∈ items, Reduced drop item) :
      Reduced drop (.array items)
  | object {entries : List (Wording × Json)}
      (apart : entries.Pairwise fun e f => e.1.same f.1 = false)
      (kept : ∀ e ∈ entries, isDropped drop e.1 = false)
      (each : ∀ e ∈ entries, Reduced drop e.2) : Reduced drop (.object entries)

end Json

namespace Value

theorem ofJsonAll_eq (items : List Json) : ofJsonAll items = items.map ofJson := by
  induction items with
  | nil => rfl
  | cons item rest ih => rw [ofJsonAll, ih, List.map_cons]

theorem ofJsonEntries_eq (entries : List (Wording × Json)) :
    ofJsonEntries entries = entries.map fun e => (.text e.1, ofJson e.2) := by
  induction entries with
  | nil => rfl
  | cons e rest ih =>
    obtain ⟨name, value⟩ := e
    rw [ofJsonEntries, ih, List.map_cons]

/-- The values whose names are not dropped. -/
def kept (drop : List Wording) (entries : List (Value × Value)) : List Value :=
  (entries.filter fun e => !Json.isDropped drop e.1.keyOf).map Prod.snd

theorem firstObstacle?_eq_none {drop : List Wording} {items : List Value} :
    firstObstacle? drop items = Option.none ↔ ∀ x ∈ items, x.obstacle? drop = Option.none := by
  induction items with
  | nil => exact iff_of_true rfl (List.forall_mem_nil _)
  | cons item rest ih => rw [firstObstacle?, Option.or_eq_none_iff, ih, List.forall_mem_cons]

/-- If the keys are texts, what keeps a dict from having a plain form are the values it keeps. -/
theorem entryObstacle?_kept (drop : List Wording) {entries : List (Value × Value)}
    (keys : ∀ e ∈ entries, e.1.IsText) :
    entryObstacle? drop entries = firstObstacle? drop (kept drop entries) := by
  induction entries with
  | nil => rfl
  | cons e rest ih =>
    obtain ⟨k, v⟩ := e
    obtain ⟨⟨w, rfl⟩, later⟩ := List.forall_mem_cons.mp keys
    have key : (text w).keyOf = w := rfl
    rw [entryObstacle?_text, ih later, kept, kept, List.filter_cons, key]
    cases Json.isDropped drop w <;> rfl

/-- Reduced data as a value has a plain form, which is the data itself. -/
theorem plain_ofJson {fewer drop : List Wording} (among : Json.Fewer fewer drop) {j : Json}
    (h : j.Reduced drop) :
    (ofJson j).obstacle? fewer = Option.none ∧ (ofJson j).plain fewer = j := by
  induction h with
  | null | bool _ | int _ =>
    rw [ofJson]
    exact ⟨rfl, rfl⟩
  | float x =>
    rw [ofJson, ofFloat]
    split
    · next number =>
      rw [Number.eq_notANumber number]
      exact ⟨rfl, rfl⟩
    · exact ⟨rfl, rfl⟩
  | text read =>
    rw [ofJson, plain, read]
    exact ⟨rfl, rfl⟩
  | @array items each ih =>
    rw [ofJson, ofJsonAll_eq, obstacle?, plain, plainAll_eq, List.map_map]
    constructor
    · rw [firstObstacle?_eq_none]
      intro v hv
      obtain ⟨item, hi, rfl⟩ := List.mem_map.mp hv
      exact (ih item hi).1
    · have same : items.map (plain fewer ∘ ofJson) = items.map id :=
        List.map_congr_left fun item hi => (ih item hi).2
      rw [same, List.map_id]
  | @object entries apart dropped each ih =>
    have keys : ∀ e ∈ entries.map fun e => (text e.1, ofJson e.2), e.1.IsText := by
      intro e he
      obtain ⟨f, _, rfl⟩ := List.mem_map.mp he
      exact ⟨f.1, rfl⟩
    have distinct : KeysApart (entries.map fun e => (text e.1, ofJson e.2)) :=
      List.pairwise_map.mpr apart
    have all : (entries.map fun e => (text e.1, ofJson e.2)).filter
        (fun e => !Json.isDropped fewer e.1.keyOf) =
          entries.map fun e => (text e.1, ofJson e.2) := by
      rw [List.filter_eq_self]
      intro e he
      obtain ⟨f, hf, rfl⟩ := List.mem_map.mp he
      have kept : Json.isDropped fewer f.1 = false := among.kept (dropped f hf)
      show (!Json.isDropped fewer f.1) = true
      rw [kept]
      rfl
    rw [ofJson, ofJsonEntries_eq]
    constructor
    · rw [obstacle?, entryObstacle?_kept fewer keys, firstObstacle?_eq_none, kept, all,
        List.map_map]
      intro v hv
      obtain ⟨e, he, rfl⟩ := List.mem_map.mp hv
      exact (ih e he).1
    · have same : entries.map ((fun e : Value × Value => (e.1.keyOf, e.2.plain fewer)) ∘
          fun e => (text e.1, ofJson e.2)) = entries.map id :=
        List.map_congr_left fun e he => Prod.ext rfl (ih e he).2
      rw [plain_dict_apart fewer distinct, keptEntries, all, List.map_map, same, List.map_id]

theorem canonicalize_ofJson {fewer drop : List Wording} (among : Json.Fewer fewer drop) {j : Json}
    (h : j.Reduced drop) : (ofJson j).canonicalize fewer = .ok j := by
  obtain ⟨reducible, same⟩ := plain_ofJson among h
  rw [canonicalize, reducible, same]

end Value

end Rehearsal
