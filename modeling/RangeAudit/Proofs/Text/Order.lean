import RangeAudit.Text.Code

namespace RangeAudit.Text

/-!
# The order of texts

Texts are compared code by code.  A string of characters that holds a mark out of place stands for the same
codes as another string; apart from such strings the order tells any two texts apart.

* `IsText` — the strings that hold codes as they are held;
* `inOrder_total`, `inOrder_trans` — the order, in which equal texts may stand either way;
* `precedes_of_inOrder` — different texts that are in order precede one another.
-/

/-- The string holds its codes in the way that codes are held. -/
def IsText (text : String) : Prop :=
  ofCodes (codesOf text) = text

instance (text : String) : Decidable (IsText text) :=
  inferInstanceAs (Decidable (_ = _))

/-- Texts are determined by their codes. -/
theorem eq_of_codesOf_eq {a b : String} (ha : IsText a) (hb : IsText b) (h : codesOf a = codesOf b) : a = b := by
  rw [← ha, ← hb, h]

/-- Texts are compared by the codes of their characters. -/
theorem inOrder_iff (a b : String) : inOrder a b = true ↔ ¬ codesOf b < codesOf a := by
  rw [inOrder, precedes, Bool.not_eq_true', decide_eq_false_iff_not]

theorem inOrder_total (a b : String) : inOrder a b = true ∨ inOrder b a = true := by
  rw [inOrder_iff, inOrder_iff]
  by_cases h : codesOf b < codesOf a
  · exact .inr (List.lt_asymm h)
  · exact .inl h

theorem inOrder_trans {a b c : String} (hab : inOrder a b = true) (hbc : inOrder b c = true) :
    inOrder a c = true := by
  rw [inOrder_iff] at hab hbc ⊢
  exact List.not_lt.mpr (List.le_trans (List.not_lt.mp hab) (List.not_lt.mp hbc))

/-- Of two different texts that are in order, the first precedes the second. -/
theorem precedes_of_inOrder {a b : String} (ha : IsText a) (hb : IsText b) (hne : a ≠ b)
    (h : inOrder a b = true) : precedes a b = true := by
  by_cases hba : inOrder b a = true
  · rw [inOrder_iff] at h hba
    have hcodes : codesOf a = codesOf b := List.le_antisymm (List.not_lt.mp h) (List.not_lt.mp hba)
    exact absurd (eq_of_codesOf_eq ha hb hcodes) hne
  · simpa [inOrder] using hba

end RangeAudit.Text
