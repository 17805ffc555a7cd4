import Rehearsal.Proofs.Number.Digits
import Rehearsal.Schema.Check

/-!
# The order of a report

A report has one line for every violation, those of one place in the order in which they were found,
and those of a place before all that lie inside it. The steps to a place are compared as texts, so
items of one array are in the order of the texts of their indices. That is their order in the array
only among indices with equally many digits.
-/

namespace Rehearsal.Schema

theorem Step.text_eq_empty {step : Step} : step.text = "" ↔ step = .entry "" := by
  cases step with
  | entry name => simp [text]
  | item index => simp [text]

namespace Violation

/-- The place of the first violation lies around that of the second one, further outside. -/
def Around (v w : Violation) : Prop := ∃ step inner, w.place = v.place ++ step :: inner

/-- The places part at two items of one array. -/
def PartAt (i j : Nat) (v w : Violation) : Prop :=
  ∃ outer rest others, v.place = outer ++ .item i :: rest ∧ w.place = outer ++ .item j :: others

variable {v w : Violation}

theorem notAfter_iff : v.notAfter w = true ↔ ¬ w.steps < v.steps := by
  rw [notAfter, decide_eq_true_iff]

theorem notAfter_trans (u v w : Violation) (hv : u.notAfter v = true) (hw : v.notAfter w = true) :
    u.notAfter w = true := by
  rw [notAfter_iff, List.not_lt] at hv hw ⊢
  exact List.le_trans hv hw

theorem notAfter_total (v w : Violation) : (v.notAfter w || w.notAfter v) = true := by
  rw [Bool.or_eq_true, notAfter_iff, notAfter_iff, List.not_lt, List.not_lt]
  exact List.le_total v.steps w.steps

theorem notAfter_of_place (h : v.place = w.place) : v.notAfter w = true := by
  rw [notAfter_iff, steps, steps, h]
  exact List.lt_irrefl _

/-- What lies further inside does not come first. -/
theorem not_around (h : v.notAfter w = true) : ¬ w.Around v := by
  rintro ⟨step, inner, place⟩
  apply notAfter_iff.mp h
  have outer : w.steps ++ [] < w.steps ++ step.text :: inner.map Step.text :=
    List.append_left_lt (List.nil_lt_cons ..)
  rw [List.append_nil] at outer
  rw [steps, steps, place, List.map_append, List.map_cons]
  exact outer

/-- Items of one array are in the order of the texts of their indices. -/
theorem text_lt_of_partAt {i j : Nat} (h : v.notAfter w = true) (parts : PartAt i j v w)
    (other : i ≠ j) : toString i < toString j := by
  obtain ⟨outer, rest, others, hv, hw⟩ := parts
  have order : ¬ toString j < toString i := by
    intro less
    apply notAfter_iff.mp h
    rw [steps, steps, hv, hw, List.map_append, List.map_append, List.map_cons, List.map_cons]
    exact List.append_left_lt (List.cons_lt_cons_iff.mpr (.inl less))
  have distinct : toString i ≠ toString j := by
    intro same
    apply other
    rw [← Number.ofDigits_toString i, same, Number.ofDigits_toString]
  by_cases behind : toString i < toString j
  · exact behind
  · exact absurd (String.le_antisymm (String.not_lt.mp order) (String.not_lt.mp behind)) distinct

/-- Steps have no text only where there are none, or one with an empty name. -/
theorem intercalate_steps_isEmpty (place : List Step) :
    ("/".intercalate (place.map Step.text)).isEmpty = true ↔ place = [] ∨ place = [.entry ""] := by
  rw [String.isEmpty_iff]
  cases place with
  | nil => simp
  | cons step rest =>
    cases rest with
    | nil => simp [Step.text_eq_empty]
    | cons next rest =>
      rw [List.map_cons, List.map_cons, String.intercalate_cons_cons]
      simp

/-- The document has a name of its own, which also stands for an entry with an empty name. -/
theorem location_eq (v : Violation) :
    v.location = if v.place = [] ∨ v.place = [.entry ""] then "<root>"
      else "/".intercalate (v.place.map Step.text) := by
  unfold location steps
  by_cases none : v.place = [] ∨ v.place = [.entry ""]
  · rw [if_pos none, if_pos ((intercalate_steps_isEmpty v.place).mpr none)]
  · rw [if_neg none, if_neg (mt (intercalate_steps_isEmpty v.place).mp none)]

end Violation

/-- Violations in the order of a report. -/
structure Ordered (found sorted : List Violation) : Prop where
  /-- Every violation is there as often as it was found. -/
  complete : sorted.Perm found
  stable (place : List Step) :
    sorted.filter (·.place = place) = found.filter (·.place = place)
  /-- No violation comes behind one that lies inside its place. -/
  outside : sorted.Pairwise fun v w => ¬ w.Around v
  /-- Items of one array are in the order of the texts of their indices. -/
  texts : sorted.Pairwise fun v w => ∀ i j, Violation.PartAt i j v w → i ≠ j →
    toString i < toString j
  /-- Items of one array are in its order if their indices have equally many digits. -/
  items : sorted.Pairwise fun v w => ∀ i j, Violation.PartAt i j v w → i ≠ j →
    (toString i).length = (toString j).length → i < j

/-- A sort keeps the order of the violations of one place. -/
theorem filter_mergeSort (found : List Violation) (place : List Step) :
    (found.mergeSort Violation.notAfter).filter (·.place = place) =
      found.filter (·.place = place) := by
  have together : (found.filter (·.place = place)).Pairwise fun v w => v.notAfter w = true := by
    refine List.pairwise_of_forall_mem_list ?_
    intro v hv w hw
    have first : v.place = place := of_decide_eq_true (List.mem_filter.mp hv).2
    have second : w.place = place := of_decide_eq_true (List.mem_filter.mp hw).2
    exact Violation.notAfter_of_place (first.trans second.symm)
  have kept : (found.filter (·.place = place)).Sublist (found.mergeSort Violation.notAfter) :=
    List.sublist_mergeSort Violation.notAfter_trans Violation.notAfter_total together
      List.filter_sublist
  have inside := kept.filter (·.place = place)
  rw [List.filter_filter] at inside
  simp only [Bool.and_self] at inside
  have size := ((List.mergeSort_perm found Violation.notAfter).filter (·.place = place)).length_eq
  exact (inside.eq_of_length size.symm).symm

theorem ordered_mergeSort (found : List Violation) :
    Ordered found (found.mergeSort Violation.notAfter) := by
  have sorted : (found.mergeSort Violation.notAfter).Pairwise fun v w => v.notAfter w = true :=
    List.pairwise_mergeSort Violation.notAfter_trans Violation.notAfter_total found
  exact {
    complete := List.mergeSort_perm found Violation.notAfter
    stable := filter_mergeSort found
    outside := sorted.imp fun after => Violation.not_around after
    texts := sorted.imp fun after i j parts other =>
      Violation.text_lt_of_partAt after parts other
    items := sorted.imp fun after i j parts other same =>
      Number.lt_of_toString_lt same (Violation.text_lt_of_partAt after parts other) }

/-- A report has one line for each violation that a check finds, outer places first, and those of
one place as they were found. Items of one array are in the order of the texts of their indices. -/
theorem report_in_order (found : List Violation) :
    (∀ schema v, errors schema v = (check (depth schema + 1) .enter schema v).all.map report) ∧
      ∃ sorted, report found = sorted.map Violation.line ∧ Ordered found sorted ∧
        ∀ v : Violation, v.line = (if v.place = [] ∨ v.place = [.entry ""] then "<root>"
          else "/".intercalate (v.place.map Step.text)) ++ ": " ++ v.message := by
  refine ⟨fun schema v => ?_, found.mergeSort Violation.notAfter, rfl, ordered_mergeSort found,
    fun v => ?_⟩
  · unfold errors
    cases (check (depth schema + 1) .enter schema v).all <;> rfl
  · rw [Violation.line, Violation.location_eq]

/-- An array of integers but for its items 2 and 10. -/
def spoiledArray : Value :=
  .list [.int 0, .int 0, "a", .int 0, .int 0, .int 0, .int 0, .int 0, .int 0, .int 0, "b"]

def arrayOfIntegers : Value := .dict [("items", .dict [("type", "integer")])]

/-- Item 10 is reported before item 2, which is found first and stands first in the array. -/
theorem spoiledArray_out_of_order :
    ∃ second tenth : Violation, Violation.PartAt 2 10 second tenth ∧
      (check (depth arrayOfIntegers + 1) .enter arrayOfIntegers spoiledArray).all =
        .ok [second, tenth] ∧
      errors arrayOfIntegers spoiledArray = .ok [tenth.line, second.line] ∧
      tenth.line = "10: 'b' is not of type 'integer'" ∧
      second.line = "2: 'a' is not of type 'integer'" := by
  let second : Violation := ⟨[.item 2], "'a' is not of type 'integer'"⟩
  let tenth : Violation := ⟨[.item 10], "'b' is not of type 'integer'"⟩
  have found : (check (depth arrayOfIntegers + 1) .enter arrayOfIntegers spoiledArray).found =
      [second, tenth] := by decide +kernel
  have finished : (check (depth arrayOfIntegers + 1) .enter arrayOfIntegers spoiledArray).stop =
      none := Option.isNone_iff_eq_none.mp (by decide +kernel)
  have checked : (check (depth arrayOfIntegers + 1) .enter arrayOfIntegers spoiledArray).all =
      .ok [second, tenth] := by rw [Findings.all, finished, found]
  have behind : second.notAfter tenth = false := by decide +kernel
  have reported : report [second, tenth] = [tenth.line, second.line] := by
    simp [report, List.mergeSort, behind]
  refine ⟨second, tenth, ⟨[], [], [], rfl, rfl⟩, checked, ?_, by decide +kernel, by decide +kernel⟩
  rw [errors, checked, ← reported]
  rfl

end Rehearsal.Schema
