import Mathlib.Algebra.Ring.Nat
import Rehearsal.Wording

/-!
# Texts and bytes determine each other

Hexadecimal digits of a fixed width read back, so a byte string is known from its digits; a text is
known from its bytes.
-/

namespace Rehearsal.Text

/-! ## Hexadecimal digits -/

def hexValue (c : Char) : Nat := if c.toNat < 58 then c.toNat - 48 else c.toNat - 87

theorem hexValue_hexDigit {n : Nat} (h : n < 16) : hexValue (hexDigit n) = n := by
  have all : ∀ n : Fin 16, hexValue (hexDigit n) = n := by decide
  exact all ⟨n, h⟩

@[simp]
theorem length_hexDigits (width n : Nat) : (hexDigits width n).length = width := by
  induction width generalizing n with
  | zero => rfl
  | succ width ih => rw [hexDigits, List.length_append, ih, List.length_singleton]

/-- The number that hexadecimal digits stand for. -/
def ofHexDigits (digits : List Char) : Nat := digits.foldl (fun n c => n * 16 + hexValue c) 0

theorem ofHexDigits_hexDigits (width n : Nat) :
    ofHexDigits (hexDigits width n) = n % 16 ^ width := by
  induction width generalizing n with
  | zero => rw [Nat.pow_zero, Nat.mod_one, hexDigits, ofHexDigits, List.foldl_nil]
  | succ width ih =>
    have last : hexValue (hexDigit (n % 16)) = n % 16 :=
      hexValue_hexDigit (Nat.mod_lt n (by decide))
    have front : (hexDigits width (n / 16)).foldl (fun n c => n * 16 + hexValue c) 0 =
        n / 16 % 16 ^ width := ih (n / 16)
    rw [hexDigits, ofHexDigits, List.foldl_append, List.foldl_cons, List.foldl_nil, front, last,
      Nat.pow_succ', Nat.mod_mul]
    omega

/-- Digits of one width stand for one number, as far as it fits. -/
theorem hexDigits_inj {width m n : Nat} (hm : m < 16 ^ width) (hn : n < 16 ^ width)
    (h : hexDigits width m = hexDigits width n) : m = n := by
  rw [← Nat.mod_eq_of_lt hm, ← Nat.mod_eq_of_lt hn, ← ofHexDigits_hexDigits,
    ← ofHexDigits_hexDigits, h]

/-- A byte string is known from its digits. -/
theorem hex_inj {bs cs : Bytes} (h : hex bs = hex cs) : bs = cs := by
  have digits : bs.flatMap (fun b => hexDigits 2 b.toNat) =
      cs.flatMap fun c => hexDigits 2 c.toNat := by
    rw [← String.toList_ofList (l := bs.flatMap _), ← String.toList_ofList (l := cs.flatMap _)]
    exact congrArg String.toList h
  clear h
  induction bs generalizing cs with
  | nil =>
    cases cs with
    | nil => rfl
    | cons c cs => simp [hexDigits] at digits
  | cons b bs ih =>
    cases cs with
    | nil => simp [hexDigits] at digits
    | cons c cs =>
      rw [List.flatMap_cons, List.flatMap_cons] at digits
      obtain ⟨first, rest⟩ := List.append_inj digits (by simp)
      have same : b.toNat = c.toNat := hexDigits_inj b.toNat_lt c.toNat_lt first
      rw [UInt8.toNat_inj.mp same, ih rest]

/-! ## Bytes of a text -/

theorem toList_loop (bytes : ByteArray) (i : Nat) (done : List UInt8) :
    ByteArray.toList.loop bytes i done = done.reverse ++ bytes.data.toList.drop i := by
  fun_induction ByteArray.toList.loop bytes i done with
  | case1 i done more ih =>
    rw [ih]
    have inside : i < bytes.data.toList.length := more
    rw [List.reverse_cons, List.append_assoc, List.drop_eq_getElem_cons inside]
    simp [ByteArray.get!, getElem!_pos, more]
  | case2 i done stop =>
    have past : bytes.data.toList.length ≤ i := Nat.le_of_not_lt stop
    rw [List.drop_eq_nil_of_le past, List.append_nil]

theorem toList_eq_data (bytes : ByteArray) : bytes.toList = bytes.data.toList := by
  rw [ByteArray.toList, toList_loop]
  rfl

/-- A text is known from its bytes. -/
theorem encode_inj {s t : String} (h : encode s = encode t) : s = t := by
  rw [encode, encode, toList_eq_data, toList_eq_data] at h
  exact String.toByteArray_inj.mp (ByteArray.ext (Array.toList_inj.mp h))

end Rehearsal.Text
