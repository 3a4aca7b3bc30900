import Mathlib.Algebra.Order.Ring.Nat
import RangeAudit.Numeral

namespace RangeAudit

/-!
# The characters of numerals

The numeral of an integer is a minus sign, if the integer is negative, and its ASCII digits.

* `Numeral.render_toList`, `Numeral.isMark_of_mem_render` — the characters of a numeral;
* `Numeral.render_injective` — different integers have different numerals;
* `Numeral.ofDigits_map_toDigits` — the digits of a number write it.
-/

namespace Numeral

/-- The characters that numerals are made of. -/
def isMark (c : Char) : Bool :=
  c == '-' || c.isDigit

/-- A number is written with its decimal digits, behind a sign if it is negative. -/
theorem render_toList (n : Int) :
    (render n).toList = (if n < 0 then ['-'] else []) ++ Nat.toDigits 10 n.natAbs := by
  rw [render]
  split <;> simp [Nat.toList_repr]

/-- Decimal digits are digits. -/
theorem isDigit_of_mem_toDigits {n : Nat} {c : Char} (h : c ∈ Nat.toDigits 10 n) : c.isDigit = true :=
  Nat.isDigit_of_mem_toDigits (by decide) (by decide) h

/-- Numbers are written with digits and a sign. -/
theorem isMark_of_mem_render {n : Int} {c : Char} (h : c ∈ (render n).toList) : isMark c = true := by
  rw [render_toList, List.mem_append] at h
  rcases h with h | h
  · split at h
    · rw [List.mem_singleton.mp h]
      rfl
    · cases h
  · rw [isMark, isDigit_of_mem_toDigits h, Bool.or_true]

/-- A number is written with at least one character. -/
theorem render_toList_ne_nil (n : Int) : (render n).toList ≠ [] := by
  rw [render_toList]
  exact List.append_ne_nil_of_right_ne_nil _ Nat.toDigits_ne_nil

/-- The numeral of a negative integer starts with a sign, and no other one does. -/
theorem head?_render_eq_minus_iff (n : Int) : (render n).toList.head? = some '-' ↔ n < 0 := by
  rw [render_toList]
  split
  · simpa
  · rename_i hn
    simp only [List.nil_append, hn, iff_false]
    intro hhead
    exact absurd (isDigit_of_mem_toDigits (List.mem_of_head? hhead)) (by decide)

/-- Different numbers are written differently. -/
theorem render_injective : Function.Injective render := by
  intro m n h
  have hsign : m < 0 ↔ n < 0 := by
    rw [← head?_render_eq_minus_iff, ← head?_render_eq_minus_iff, h]
  have habs : m.natAbs = n.natAbs := by
    have hlist := congrArg String.toList h
    rw [render_toList, render_toList, if_congr hsign rfl rfl, List.append_cancel_left_eq] at hlist
    calc m.natAbs = Nat.ofDigitChars 10 (Nat.toDigits 10 m.natAbs) 0 := Nat.ofDigitChars_ten_toDigits.symm
      _ = n.natAbs := by rw [hlist, Nat.ofDigitChars_ten_toDigits]
  omega

/-- An integer fits if and only if, without its sign, it lies below the power of ten with as many zeros as a
    numeral may have digits. -/
theorem fits_iff {n : Int} : Fits n ↔ n.natAbs < 10 ^ maxDigits :=
  Nat.length_repr_le_iff (by decide)

/-! ### ASCII digits -/

/-- The codes of the digits. -/
theorem toNat_bounds_of_isDigit {c : Char} (h : c.isDigit = true) : 0x30 ≤ c.toNat ∧ c.toNat ≤ 0x39 := by
  simp only [Char.isDigit, Bool.and_eq_true, decide_eq_true_eq] at h
  exact ⟨UInt32.le_iff_toNat_le.mp h.1, UInt32.le_iff_toNat_le.mp h.2⟩

/-- Neither a digit nor a sign is a blank. -/
theorem isBlank_of_isMark {c : Char} (h : isMark c = true) : Text.isBlank c = false := by
  rw [isMark, Bool.or_eq_true, beq_iff_eq] at h
  rcases h with rfl | h
  · decide
  · have hbounds := toNat_bounds_of_isDigit h
    simp only [Text.isBlank, Bool.or_eq_false_iff, Bool.and_eq_false_iff, decide_eq_false_iff_not,
      beq_eq_false_iff_ne]
    omega

/-- A digit stands for the distance of its code from that of zero. -/
theorem digitValue?_of_isDigit {c : Char} (h : c.isDigit = true) :
    Text.digitValue? c = some (c.toNat - 0x30) := by
  have hascii : c.toNat < 0x80 := by
    have := toNat_bounds_of_isDigit h
    omega
  rw [Text.digitValue?, if_pos hascii, if_pos h]

/-- The digits of a number add up to it. -/
theorem ofDigits_map_toDigits (n : Nat) : ofDigits ((Nat.toDigits 10 n).map fun c => c.toNat - 0x30) = n := by
  calc ofDigits ((Nat.toDigits 10 n).map fun c => c.toNat - 0x30)
      = Nat.ofDigitChars 10 (Nat.toDigits 10 n) 0 := by rw [ofDigits, List.foldl_map]; rfl
    _ = n := Nat.ofDigitChars_ten_toDigits

end Numeral

end RangeAudit
