import Rehearsal.Json.Basic
import Rehearsal.Proofs.Text.Bytes

/-!
# Reading quoted texts back

A text in quotes shows where it ends and what it holds: every escape can be read back without
looking further, and none begins with a quote.
-/

namespace Rehearsal.Json

open Text (CodePoint)

/-- The character of an escape by a letter. -/
def named (point : CodePoint) : CodePoint :=
  if point = .char 'n' then .char '\n'
  else if point = .char 'r' then .char '\r'
  else if point = .char 't' then .char '\t'
  else if point = .char 'f' then .char (Char.ofNat 12)
  else if point = .char 'b' then .char (Char.ofNat 8)
  else point

/-- Reads what stands behind a backslash. -/
def readEscaped : List CodePoint → Option (CodePoint × List CodePoint)
  | [] => none
  | point :: rest =>
    if point = .char 'u' then
      some (.char (Char.ofNat (Text.ofHexDigits ((rest.take 4).map CodePoint.shown))), rest.drop 4)
    else some (named point, rest)

/-- Reads one code point of a quoted text. -/
def readPoint : List CodePoint → Option (CodePoint × List CodePoint)
  | [] => none
  | point :: rest => if point = .char '\\' then readEscaped rest else some (point, rest)

theorem readEscaped_number {n : Nat} (h : n < 32) (rest : List CodePoint) :
    readEscaped (.char 'u' :: ((Text.hexDigits 4 n).map .char ++ rest)) =
      some (.char (Char.ofNat n), rest) := by
  have size : ((Text.hexDigits 4 n).map CodePoint.char).length = 4 := by simp
  have digits : ((Text.hexDigits 4 n).map CodePoint.char).map CodePoint.shown =
      Text.hexDigits 4 n := by
    rw [List.map_map]
    exact List.map_id _
  rw [readEscaped, if_pos rfl, List.take_left' size, List.drop_left' size, digits,
    Text.ofHexDigits_hexDigits, Nat.mod_eq_of_lt (by omega)]

theorem readPoint_escape (c : Char) (rest : List CodePoint) :
    readPoint ((escape c).map .char ++ rest) = some (.char c, rest) := by
  have numbered {n : Nat} (h : c.toNat = n) : c = Char.ofNat n := by rw [← h, Char.ofNat_toNat]
  unfold escape
  split
  · next h => subst h; rfl
  split
  · next h => subst h; rfl
  split
  · next h => subst h; rfl
  split
  · next h => subst h; rfl
  split
  · next h => subst h; rfl
  split
  · next h => rw [numbered h]; rfl
  split
  · next h => rw [numbered h]; rfl
  split
  · next h =>
    have read := readEscaped_number h rest
    rw [Char.ofNat_toNat] at read
    exact read
  · next backslash _ _ _ _ _ _ =>
    have plain : CodePoint.char c ≠ .char '\\' := fun h => backslash (CodePoint.char.inj h)
    exact if_neg plain

/-- Every code point is read back from its escape, whatever follows. -/
theorem readPoint_escapePoint (point : CodePoint) (rest : List CodePoint) :
    readPoint (escapePoint point ++ rest) = some (point, rest) := by
  cases point with
  | surrogate n => rfl
  | char c => exact readPoint_escape c rest

theorem escapePoint_append_inj {p q : CodePoint} {r s : List CodePoint}
    (h : escapePoint p ++ r = escapePoint q ++ s) : p = q ∧ r = s := by
  have read := congrArg readPoint h
  rw [readPoint_escapePoint, readPoint_escapePoint] at read
  exact Prod.mk.inj (Option.some.inj read)

/-- A quote ends the text; the one that is part of it is escaped. -/
theorem quote_ne_escapePoint {p : CodePoint} {r s : List CodePoint} :
    .char '"' :: r ≠ escapePoint p ++ s := by
  intro h
  have read : readPoint (.char '"' :: r) = some (.char '"', r) := rfl
  rw [h, readPoint_escapePoint] at read
  obtain ⟨rfl, rfl⟩ := Prod.mk.inj (Option.some.inj read)
  simp [escapePoint, escape] at h

theorem points_append_inj : ∀ {ps qs r s : List CodePoint},
    ps.flatMap escapePoint ++ .char '"' :: r = qs.flatMap escapePoint ++ .char '"' :: s →
      ps = qs ∧ r = s
  | [], [], r, s, h => ⟨rfl, (List.cons.inj h).2⟩
  | [], q :: qs, r, s, h => by
    rw [List.flatMap_cons, List.append_assoc] at h
    exact (quote_ne_escapePoint h).elim
  | p :: ps, [], r, s, h => by
    rw [List.flatMap_cons, List.append_assoc] at h
    exact (quote_ne_escapePoint h.symm).elim
  | p :: ps, q :: qs, r, s, h => by
    rw [List.flatMap_cons, List.flatMap_cons, List.append_assoc, List.append_assoc] at h
    obtain ⟨rfl, rest⟩ := escapePoint_append_inj h
    obtain ⟨rfl, rfl⟩ := points_append_inj rest
    exact ⟨rfl, rfl⟩

/-- What begins with a text in quotes determines what the text reads as and what follows it. -/
theorem quote_append_inj {v w : Wording} {r s : List CodePoint}
    (h : quote v ++ r = quote w ++ s) : v.points = w.points ∧ r = s := by
  simp only [quote, List.cons_append, List.append_assoc, List.nil_append] at h
  exact points_append_inj (List.cons.inj h).2

end Rehearsal.Json
