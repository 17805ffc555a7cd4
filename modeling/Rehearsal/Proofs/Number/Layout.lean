import Rehearsal.Proofs.Number.Digits

/-!
# The shape of the text of a double

The text of a finite double begins with a digit, after a sign, and shows by a point or by an
exponent that it is none of an integer. A canonical text differs from it only in the words for the
exceptional values, so it tells apart whatever the plain text tells apart.
-/

namespace Rehearsal.Number

/-- The digits of a magnitude with a point or an exponent among them. -/
structure Fractional (cs : List Char) : Prop where
  starts : ∃ d ∈ cs.head?, isDigit d = true
  characters : ∀ c ∈ cs, isDigit c = true ∨ c ∈ ['.', 'e', '+', '-']
  marked : '.' ∈ cs ∨ 'e' ∈ cs

namespace Fractional

/-- Digits, a mark and more characters. -/
theorem of_parts (digits : List Char) (mark : Char) (rest : List Char) (nonempty : digits ≠ [])
    (hd : ∀ c ∈ digits, isDigit c = true) (hm : mark = '.' ∨ mark = 'e')
    (hr : ∀ c ∈ rest, isDigit c = true ∨ c ∈ ['.', 'e', '+', '-']) :
    Fractional (digits ++ mark :: rest) where
  starts := by
    obtain ⟨d, ds, rfl⟩ := List.exists_cons_of_ne_nil nonempty
    exact ⟨d, rfl, hd d (List.mem_cons_self ..)⟩
  characters c hc := by
    simp only [List.mem_append, List.mem_cons] at hc
    rcases hc with hc | rfl | hc
    · exact Or.inl (hd c hc)
    · rcases hm with rfl | rfl <;> simp
    · exact hr c hc
  marked := by
    rcases hm with rfl | rfl
    · exact Or.inl (by simp)
    · exact Or.inr (by simp)

end Fractional

namespace Layout

theorem toList_take (s : String) (n : Nat) : (s.take n).toString.toList = s.toList.take n :=
  String.toList_copy_take

theorem toList_drop (s : String) (n : Nat) : (s.drop n).toString.toList = s.toList.drop n :=
  String.toList_copy_drop

theorem isDigit_of_mem_zeros {n : Nat} {c : Char} (h : c ∈ (zeros n).toList) :
    isDigit c = true := by
  rw [zeros, String.toList_ofList] at h
  rw [List.eq_of_mem_replicate h]
  exact isDigit_zero

section Magnitude

variable {digits : String} (nonempty : digits.toList ≠ [])
  (hd : ∀ c ∈ digits.toList, isDigit c = true)
include nonempty hd

theorem positional_fractional (point : Int) : Fractional (positional digits point).toList := by
  unfold positional
  dsimp only
  split
  · have h := Fractional.of_parts ['0'] '.' ((zeros (-point).toNat).toList ++ digits.toList)
      (by simp) (by simp [isDigit_zero]) (Or.inl rfl) fun c hc => by
        rcases List.mem_append.mp hc with hc | hc
        · exact Or.inl (isDigit_of_mem_zeros hc)
        · exact Or.inl (hd c hc)
    simpa using h
  · split
    · have h := Fractional.of_parts
        (digits.toList ++ (zeros (point - digits.length).toNat).toList) '.' ['0']
        (by simp [nonempty]) (fun c hc => by
          rcases List.mem_append.mp hc with hc | hc
          · exact hd c hc
          · exact isDigit_of_mem_zeros hc) (Or.inl rfl) (by simp [isDigit_zero])
      simpa using h
    · next positive _ =>
      have h := Fractional.of_parts (digits.toList.take point.toNat) '.'
        (digits.toList.drop point.toNat) (by simp [nonempty]; omega)
        (fun c hc => hd c (List.mem_of_mem_take hc)) (Or.inl rfl)
        fun c hc => Or.inl (hd c (List.mem_of_mem_drop hc))
      simpa [toList_take, toList_drop] using h

theorem scientific_fractional {layout : Layout} (plus : layout.plus = "+") (exponent : Int) :
    Fractional (layout.scientific digits exponent).toList := by
  have first : digits.toList.take 1 ≠ [] := by simp [nonempty]
  have firstDigit : ∀ c ∈ digits.toList.take 1, isDigit c = true :=
    fun c hc => hd c (List.mem_of_mem_take hc)
  have exponentPart : ∀ c ∈ (if exponent < 0 then "-" else layout.plus).toList ++
      (padLeft layout.exponentDigits (toString exponent.natAbs)).toList,
      isDigit c = true ∨ c ∈ ['.', 'e', '+', '-'] := by
    intro c hc
    rcases List.mem_append.mp hc with hc | hc
    · rw [plus] at hc
      split at hc <;> simp_all
    · exact Or.inl (isDigit_of_mem_padLeft hc)
  unfold scientific
  dsimp only
  split
  · have h := Fractional.of_parts _ 'e' _ first firstDigit (Or.inr rfl) exponentPart
    simpa [toList_take] using h
  · have h := Fractional.of_parts _ '.'
      (digits.toList.drop 1 ++ 'e' :: ((if exponent < 0 then "-" else layout.plus).toList ++
        (padLeft layout.exponentDigits (toString exponent.natAbs)).toList))
      first firstDigit (Or.inl rfl) fun c hc => by
        rcases List.mem_append.mp hc with hc | hc
        · exact Or.inl (hd c (List.mem_of_mem_drop hc))
        · rcases List.mem_cons.mp hc with rfl | hc
          · simp
          · exact exponentPart c hc
    simpa [toList_take, toList_drop] using h

end Magnitude

theorem magnitude_fractional {layout : Layout} (plus : layout.plus = "+") (d : Decimal) :
    Fractional (layout.magnitude d).toList := by
  unfold magnitude
  dsimp only
  split
  · exact ⟨⟨'0', rfl, isDigit_zero⟩, by simp [isDigit_zero], Or.inl (by simp)⟩
  · split
    · exact positional_fractional (toString_ne_nil _) (fun _ => isDigit_of_mem_toString) _
    · exact scientific_fractional (toString_ne_nil _) (fun _ => isDigit_of_mem_toString) plus _

/-- What the text of a double looks like, and its canonical text beside it. -/
inductive Shape : List Char → String → Prop where
  | nan : Shape "NaN".toList "nan"
  | infinite (sign : String) (hs : sign = "" ∨ sign = "-") :
      Shape (sign ++ "Infinity").toList (sign ++ "inf")
  | finite (sign digits : String) (hs : sign = "" ∨ sign = "-") (hd : Fractional digits.toList) :
      Shape (sign ++ digits).toList (sign ++ digits)

namespace Shape

variable {cs : List Char} {t u : String}

theorem finite_characters {sign digits : String} (hs : sign = "" ∨ sign = "-")
    (hd : Fractional digits.toList) {c : Char} (hc : c ∈ (sign ++ digits).toList) :
    isDigit c = true ∨ c ∈ ['.', 'e', '+', '-'] := by
  rw [String.toList_append, List.mem_append] at hc
  rcases hc with hc | hc
  · rcases hs with rfl | rfl
    · simp at hc
    · simp_all
  · exact hd.characters c hc

/-- Where a canonical text is one of a finite double, its plain text is the same one; the words for
the other doubles hold letters that no finite one has. -/
theorem text_eq (ht : Shape cs t) (hu : Shape cs u) : t = u := by
  have apart {sign digits : String} (hs : sign = "" ∨ sign = "-") (hd : Fractional digits.toList)
      {c : Char} (hc : c ∈ (sign ++ digits).toList)
      (letter : c ∉ ['.', 'e', '+', '-'] ∧ isDigit c = false) : False := by
    rcases finite_characters hs hd hc with h | h
    · rw [letter.2] at h
      cases h
    · exact letter.1 h
  generalize hcs : cs = ds at hu
  cases ht with
  | nan =>
    cases hu with
    | nan => rfl
    | infinite sign hs => rcases hs with rfl | rfl <;> simp at hcs
    | finite sign digits hs hd =>
      exact (apart (c := 'N') hs hd (by rw [← hcs]; simp) (by decide)).elim
  | infinite sign hs =>
    cases hu with
    | nan => rcases hs with rfl | rfl <;> simp at hcs
    | infinite sign' hs' => rcases hs with rfl | rfl <;> rcases hs' with rfl | rfl <;> simp_all
    | finite sign' digits hs' hd =>
      exact (apart (c := 'I') hs' hd (by rw [← hcs]; simp) (by decide)).elim
  | finite sign digits hs hd =>
    cases hu with
    | nan => exact (apart (c := 'N') hs hd (by rw [hcs]; simp) (by decide)).elim
    | infinite sign' hs' => exact (apart (c := 'I') hs hd (by rw [hcs]; simp) (by decide)).elim
    | finite => exact String.toList_injective hcs

theorem starts (h : Shape cs t) : ∃ c ∈ cs.head?, isDigit c = true ∨ c ∈ ['-', 'N', 'I'] := by
  cases h with
  | nan => exact ⟨'N', rfl, by simp⟩
  | infinite sign hs =>
    rcases hs with rfl | rfl
    · exact ⟨'I', by simp, by simp⟩
    · exact ⟨'-', by simp, by simp⟩
  | finite sign digits hs hd =>
    rcases hs with rfl | rfl
    · obtain ⟨d, hd, digit⟩ := hd.starts
      exact ⟨d, by simpa using hd, Or.inl digit⟩
    · exact ⟨'-', by simp, by simp⟩

/-- No text of a double is one of an integer. -/
theorem marked (h : Shape cs t) : ∃ c ∈ cs, isDigit c = false ∧ c ≠ '-' := by
  cases h with
  | nan => exact ⟨'N', by simp, by decide⟩
  | infinite sign hs => exact ⟨'I', by simp, by decide⟩
  | finite sign digits hs hd =>
    rcases hd.marked with h | h
    · exact ⟨'.', by simp [h], by decide⟩
    · exact ⟨'e', by simp [h], by decide⟩

/-- No text of a double holds what stands behind the values of a document. -/
theorem undelimited (h : Shape cs t) : ∀ c ∈ cs, c ∉ [',', ']', '\x7d'] := by
  cases h with
  | nan => simp
  | infinite sign hs => rcases hs with rfl | rfl <;> simp
  | finite sign digits hs hd =>
    intro c hc delimiter
    have others : ∀ d ∈ [',', ']', '\x7d'],
        ¬ (isDigit d = true ∨ d ∈ ['.', 'e', '+', '-']) := by simp [isDigit]
    exact others c delimiter (finite_characters hs hd hc)

end Shape

theorem shape (x : Float) : Shape (canonicalLayout.write x).toList (text x) := by
  have sign (negative : Bool) : (if negative then "-" else "") = "" ∨
      (if negative then "-" else "") = "-" := by
    cases negative
    · exact Or.inl rfl
    · exact Or.inr rfl
  unfold text write
  cases read x with
  | nan => exact .nan
  | infinite negative => exact .infinite _ (sign negative)
  | finite d => exact .finite _ _ (sign d.negative) (magnitude_fractional rfl _)

end Layout

end Rehearsal.Number
