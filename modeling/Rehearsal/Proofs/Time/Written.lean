import Mathlib.Algebra.Ring.Nat
import Rehearsal.Proofs.Number.Digits
import Rehearsal.Time.Instant

/-!
# Times are known from their texts

A date is known from its year, month and day, and a text of an instant shows each of its numbers
up to a character that is no digit. Parts that are left out are zero. So a text determines the
reading of the clock and its distance from universal time.
-/

namespace Rehearsal.Time

/-! ## Dates -/

/-- The estimate of a year is never one that begins after the day. -/
theorem daysBefore_yearOf (days : Nat) : daysBefore (yearOf days) ≤ days := by
  unfold yearOf
  dsimp only
  split
  · unfold daysBefore
    dsimp only
    omega
  · split <;> omega

/-- The whole months before the day and the days before it in its month are the days counted. -/
theorem monthAndDay_count (lengths : List Nat) (first left : Nat) :
    first ≤ (monthAndDay first lengths left).1 ∧
      (lengths.take ((monthAndDay first lengths left).1 - first)).sum +
        ((monthAndDay first lengths left).2 - 1) = left := by
  induction lengths generalizing first left with
  | nil => simp [monthAndDay]
  | cons length rest ih =>
    rw [monthAndDay]
    split
    · simp
    · next later =>
      obtain ⟨month, count⟩ := ih (first + 1) (left - length)
      have taken : (monthAndDay (first + 1) rest (left - length)).1 - first =
          (monthAndDay (first + 1) rest (left - length)).1 - (first + 1) + 1 := by omega
      rw [taken, List.take_succ_cons, List.sum_cons]
      omega

theorem Date.toDays_ofDays (days : Nat) : (Date.ofDays days).toDays = days := by
  obtain ⟨_, count⟩ := monthAndDay_count (monthLengths (isLeap (yearOf days))) 1
    (days - daysBefore (yearOf days))
  have begun := daysBefore_yearOf days
  unfold Date.ofDays Date.toDays
  dsimp only
  rw [← List.sum_eq_foldl_nat]
  omega

/-! ## Instants -/

/-- The numbers of a reading are all there is to it. -/
theorem Instant.wall_eq (t : Instant) :
    t.wall = t.date.toDays * dayMicros +
      (t.hour * 3600 + t.minute * 60 + t.second) * secondMicros + t.microsecond := by
  rw [Instant.date, Date.toDays_ofDays, Instant.hour, Instant.minute, Instant.second,
    Instant.microsecond]
  unfold dayMicros secondMicros
  omega

open Number

/-- A number behind a mark, which may be left out. -/
def part (shown : Bool) (mark : Char) (width n : Nat) : List Char :=
  if shown then mark :: (padLeft width (toString n)).toList else []

/-- What comes after a part begins neither with its mark nor with a digit. -/
structure After (mark : Char) (rest : List Char) : Prop where
  digits : EndsDigits rest
  mark : ∀ c ∈ rest.head?, c ≠ mark

theorem After.nil (mark : Char) : After mark [] := ⟨endsDigits_nil, fun _ h => by cases h⟩

theorem After.cons {mark c : Char} {rest : List Char} (digit : isDigit c = false)
    (other : c ≠ mark) : After mark (c :: rest) :=
  ⟨endsDigits_cons digit, fun d hd => by
    cases hd
    exact other⟩

/-- A part is known from a text that begins with it, if it is left out for zero only. -/
theorem part_append_inj {b c : Bool} {mark : Char} {width m n : Nat} {r s : List Char}
    (hb : b = false → m = 0) (hc : c = false → n = 0) (hr : After mark r) (hs : After mark s)
    (h : part b mark width m ++ r = part c mark width n ++ s) : m = n ∧ r = s := by
  cases b with
  | false =>
    cases c with
    | false => exact ⟨(hb rfl).trans (hc rfl).symm, h⟩
    | true =>
      have head : r.head? = some mark := by
        have whole : r = mark :: ((padLeft width (toString n)).toList ++ s) := h
        rw [whole, List.head?_cons]
      exact (hr.mark mark head rfl).elim
  | true =>
    cases c with
    | false =>
      have head : s.head? = some mark := by
        have whole : mark :: ((padLeft width (toString m)).toList ++ r) = s := h
        rw [← whole, List.head?_cons]
      exact (hs.mark mark head rfl).elim
    | true => exact padLeft_append_inj hr.digits hs.digits (List.cons.inj h).2

namespace Offset

def sign (o : Offset) : Char := if o.micros < 0 then '-' else '+'

/-- What the text of a distance shows below its minutes. -/
def below (o : Offset) : List Char :=
  part (!decide (o.micros.natAbs % (60 * secondMicros) = 0)) ':' 2
      (o.micros.natAbs / secondMicros % 60) ++
    part (!decide (o.micros.natAbs % secondMicros = 0)) '.' 6 (o.micros.natAbs % secondMicros)

theorem toList_text (o : Offset) : o.text.toList =
    o.sign :: ((padLeft 2 (toString (o.micros.natAbs / secondMicros / 3600))).toList ++
      ':' :: ((padLeft 2 (toString (o.micros.natAbs / secondMicros / 60 % 60))).toList ++
        o.below)) := by
  unfold text sign below part Duration.pad2 Duration.pad6
  split <;> split <;> split <;> simp_all

theorem after_micros (n : Nat) (shown : Bool) : After ':' (part shown '.' 6 n) := by
  cases shown with
  | false => exact .nil ':'
  | true => exact .cons (by decide) (by decide)

theorem endsDigits_below (o : Offset) : EndsDigits o.below := by
  unfold below part
  split
  · exact endsDigits_cons (by decide)
  · split
    · exact endsDigits_cons (by decide)
    · exact endsDigits_nil

/-- A distance is known from its text. -/
theorem micros_eq_of_text {o p : Offset} (h : o.text.toList = p.text.toList) :
    o.micros = p.micros := by
  rw [toList_text, toList_text] at h
  obtain ⟨sign, h⟩ := List.cons.inj h
  obtain ⟨hours, h⟩ := padLeft_append_inj (endsDigits_cons (by decide))
    (endsDigits_cons (by decide)) h
  obtain ⟨minutes, h⟩ := padLeft_append_inj (endsDigits_below o) (endsDigits_below p)
    (List.cons.inj h).2
  have left {n : Nat} (whole : (!decide (n % (60 * secondMicros) = 0)) = false) :
      n / secondMicros % 60 = 0 := by
    simp only [Bool.not_eq_false', decide_eq_true_eq] at whole
    unfold secondMicros at whole ⊢
    omega
  obtain ⟨seconds, h⟩ := part_append_inj left left (after_micros _ _) (after_micros _ _) h
  obtain ⟨micros, _⟩ := part_append_inj (by simp) (by simp) (.nil '.') (.nil '.')
    (congrArg (· ++ []) h)
  have size : o.micros.natAbs = p.micros.natAbs := by
    unfold secondMicros at hours minutes seconds micros
    omega
  unfold Offset.sign at sign
  split at sign <;> split at sign <;> first | omega | simp at sign

end Offset

namespace Instant

/-- What the text of an instant shows behind its seconds. -/
def tail (t : Instant) : List Char :=
  part (!decide (t.microsecond = 0)) '.' 6 t.microsecond ++ t.offsetText.toList

theorem toList_text (t : Instant) : t.text.toList =
    (padLeft 4 (toString t.date.year)).toList ++ '-' ::
      ((padLeft 2 (toString t.date.month)).toList ++ '-' ::
        ((padLeft 2 (toString t.date.day)).toList ++ 'T' ::
          ((padLeft 2 (toString t.hour)).toList ++ ':' ::
            ((padLeft 2 (toString t.minute)).toList ++ ':' ::
              ((padLeft 2 (toString t.second)).toList ++ t.tail))))) := by
  unfold text dateText clockText tail part Duration.pad2 Duration.pad6
  split <;> simp_all

theorem after_offsetText (t : Instant) : After '.' t.offsetText.toList := by
  unfold offsetText
  cases t.offset with
  | none => exact .nil '.'
  | some o =>
    rw [Option.map_some, Option.getD_some, Offset.toList_text]
    unfold Offset.sign
    split
    · exact .cons (by decide) (by decide)
    · exact .cons (by decide) (by decide)

theorem endsDigits_tail (t : Instant) : EndsDigits t.tail := by
  unfold tail part
  split
  · exact endsDigits_cons (by decide)
  · exact t.after_offsetText.digits

theorem micros_eq_of_offsetText {s t : Instant} (h : s.offsetText.toList = t.offsetText.toList) :
    s.offset.map (·.micros) = t.offset.map (·.micros) := by
  unfold offsetText at h
  cases hs : s.offset with
  | none =>
    cases ht : t.offset with
    | none => rfl
    | some p => simp [hs, ht, Offset.toList_text] at h
  | some o =>
    cases ht : t.offset with
    | none => simp [hs, ht, Offset.toList_text] at h
    | some p =>
      rw [hs, ht] at h
      exact congrArg some (Offset.micros_eq_of_text h)

/-- The text of an instant determines its reading and its distance from universal time. -/
theorem text_inj {s t : Instant} (h : s.text = t.text) :
    s.wall = t.wall ∧ s.offset.map (·.micros) = t.offset.map (·.micros) := by
  have h := congrArg String.toList h
  rw [toList_text, toList_text] at h
  -- Number by number from the left; what is left of the text begins with no digit each time.
  have dash {rest : List Char} : EndsDigits ('-' :: rest) := endsDigits_cons (by decide)
  have letter {rest : List Char} : EndsDigits ('T' :: rest) := endsDigits_cons (by decide)
  have colon {rest : List Char} : EndsDigits (':' :: rest) := endsDigits_cons (by decide)
  obtain ⟨year, h⟩ := padLeft_append_inj dash dash h
  obtain ⟨month, h⟩ := padLeft_append_inj dash dash (List.cons.inj h).2
  obtain ⟨day, h⟩ := padLeft_append_inj letter letter (List.cons.inj h).2
  obtain ⟨hour, h⟩ := padLeft_append_inj colon colon (List.cons.inj h).2
  obtain ⟨minute, h⟩ := padLeft_append_inj colon colon (List.cons.inj h).2
  obtain ⟨second, h⟩ := padLeft_append_inj s.endsDigits_tail t.endsDigits_tail (List.cons.inj h).2
  obtain ⟨micros, h⟩ := part_append_inj (by simp) (by simp) s.after_offsetText t.after_offsetText h
  have date : s.date = t.date := by
    cases hs : s.date
    cases ht : t.date
    simp_all
  refine ⟨?_, micros_eq_of_offsetText h⟩
  rw [wall_eq s, wall_eq t, date, hour, minute, second, micros]

end Instant

end Rehearsal.Time
