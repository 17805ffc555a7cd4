import Rehearsal.Value.Parts

/-!
# What joined texts read as

Texts joined with nothing between them read as the code points of all of them in order, whether or
not a surrogate has found its place in one of them.
-/

namespace Rehearsal

namespace Wording

theorem points_of_mapM {points : List Text.CodePoint} {chars : List Char}
    (h : points.mapM Text.CodePoint.char? = some chars) : chars.map .char = points := by
  induction points generalizing chars with
  | nil =>
    cases h
    rfl
  | cons point rest ih =>
    simp only [List.mapM_cons, Option.bind_eq_bind, Option.bind_eq_some_iff] at h
    obtain ⟨c, hc, cs, hcs, hs⟩ := h
    cases hs
    cases point with
    | char d =>
      cases hc
      simp only [List.map_cons, ih hcs]
    | surrogate n => cases hc

@[simp]
theorem points_ofPoints (points : List Text.CodePoint) : (ofPoints points).points = points := by
  unfold ofPoints
  cases h : points.mapM Text.CodePoint.char? with
  | none => rfl
  | some chars => simpa [Wording.points, contents] using points_of_mapM h

theorem points_of_text? {w : Wording} {s : String} (h : w.text? = some s) :
    w.points = s.toList.map .char := by
  cases w <;> cases h <;> rfl

@[simp]
theorem points_append (a b : Wording) : (a ++ b).points = a.points ++ b.points := by
  change (append a b).points = _
  unfold append
  split
  · next s t ha hb =>
    rw [points_of_text? ha, points_of_text? hb, ← List.map_append, ← String.toList_append]
    rfl
  · exact points_ofPoints _

@[simp]
theorem points_reading (w : Wording) : w.reading.points = w.points := by
  cases w <;> rfl

theorem reading_reading (w : Wording) : w.reading.reading = w.reading := by
  cases w <;> rfl

theorem reading_ofPoints (points : List Text.CodePoint) :
    (ofPoints points).reading = ofPoints points := by
  unfold ofPoints
  split <;> rfl

/-- What is joined is no verdict any more. -/
theorem reading_append (a b : Wording) : (a ++ b).reading = a ++ b := by
  change (append a b).reading = append a b
  unfold append
  split
  · rfl
  · exact reading_ofPoints _

@[simp]
theorem points_intercalate : ∀ ws : List Wording,
    (intercalate "" ws).points = ws.flatMap points
  | [] => rfl
  | [w] => by simp [intercalate]
  | w :: v :: rest => by
    have ih := points_intercalate (v :: rest)
    have empty : (plain "").points = [] := rfl
    simp only [intercalate, points_append, empty, ih, List.append_nil, List.flatMap_cons]

end Wording

namespace Value

theorem strayItem_texts (ws : List Wording) :
    ∀ place, strayItem? place (ws.map text) = Option.none := by
  induction ws with
  | nil => exact fun _ => rfl
  | cons w rest ih => exact fun place => ih (place + 1)

theorem texts_of_strayItem {items : List Value} :
    ∀ {place : Nat}, strayItem? place items = Option.none →
      ∃ ws : List Wording, items = ws.map text := by
  induction items with
  | nil => exact fun _ => ⟨[], rfl⟩
  | cons item rest ih =>
    intro place h
    cases item with
    | text w =>
      obtain ⟨ws, rfl⟩ := ih h
      exact ⟨w :: ws, rfl⟩
    | _ => cases h

theorem filterMap_texts (ws : List Wording) : (ws.map text).filterMap wording? = ws := by
  induction ws with
  | nil => rfl
  | cons w rest ih => simp [wording?, ih]

theorem joined_texts (separator : String) (ws : List Wording) :
    joined separator (ws.map text) = .ok (.intercalate separator ws) := by
  rw [joined, strayItem_texts, filterMap_texts]

/-- Items are joined exactly if they are texts, and read as the code points of all of them. -/
theorem joined_points {items : List Value} {points : List Text.CodePoint} :
    (joined "" items).map Wording.points = .ok points ↔
      ∃ ws : List Wording, items = ws.map text ∧ points = ws.flatMap Wording.points := by
  constructor
  · intro h
    cases hs : strayItem? 0 items with
    | some m =>
      rw [joined, hs] at h
      cases h
    | none =>
      obtain ⟨ws, rfl⟩ := texts_of_strayItem hs
      rw [joined_texts] at h
      cases h
      exact ⟨ws, rfl, Wording.points_intercalate ws⟩
  · rintro ⟨ws, rfl, rfl⟩
    rw [joined_texts, Except.map, Wording.points_intercalate]

/-- Two runs of items are joined one after the other. -/
theorem joined_append {items more : List Value} {points : List Text.CodePoint} :
    (joined "" (items ++ more)).map Wording.points = .ok points ↔
      ∃ before added, (joined "" items).map Wording.points = .ok before ∧
        (joined "" more).map Wording.points = .ok added ∧ points = before ++ added := by
  simp only [joined_points]
  constructor
  · rintro ⟨ws, hw, rfl⟩
    obtain ⟨first, second, rfl, rfl, rfl⟩ := List.append_eq_map_iff.mp hw
    exact ⟨_, _, ⟨first, rfl, rfl⟩, ⟨second, rfl, rfl⟩, List.flatMap_append⟩
  · rintro ⟨_, _, ⟨first, rfl, rfl⟩, ⟨second, rfl, rfl⟩, rfl⟩
    exact ⟨first ++ second, List.map_append.symm, List.flatMap_append.symm⟩

end Value

end Rehearsal
