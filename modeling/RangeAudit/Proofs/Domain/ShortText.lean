import RangeAudit.Proofs.Domain.CanonicalText

namespace RangeAudit.ValueRange

/-!
# What the text for display shows

The text for display differs from the canonical one in how its numbers are written.  As long as a zero is
written as such, it shows no more of a range than the canonical text does.

* `renderWith_eq_of_closed_eq` — with any such way of writing, ranges that agree in what counts look the same;
* `short_eq_of_exact_eq` — hence a change that is not reported is not seen either.
-/

/-- A lower bound that is absent looks like zero. -/
theorem getD_map_eq {num : Int → String} (hzero : num 0 = "0") (low : Option Int) :
    (low.map num).getD "0" = num (low.getD 0) := by
  cases low with
  | none => exact hzero.symm
  | some n => rfl

/-- However numbers are written, an absent lower bound is written as zero, if zero is written as it is. -/
theorem renderWith_eq_of_closed_eq {num : Int → String} (hzero : num 0 = "0") {r s : ValueRange}
    (h : r.shape.closed = s.shape.closed) : r.renderWith num = s.renderWith num := by
  unfold renderWith
  generalize r.shape = shape at h
  generalize s.shape = shape' at h
  cases shape with
  | top =>
    cases shape' with
    | top => rfl
    | pieces | bounds => cases h
  | pieces pieces exclusions =>
    cases shape' with
    | pieces =>
      obtain ⟨rfl, rfl⟩ := Shape.pieces.inj h
      rfl
    | top | bounds => cases h
  | bounds low high =>
    cases shape' with
    -- An open lower side may face a written zero; both are shown as `num 0`.
    | bounds low' high' =>
      obtain ⟨hlow, rfl⟩ := Shape.bounds.inj h
      simp only [getD_map_eq hzero, Option.some.inj hlow]
    | top | pieces => cases h

/-- Zero is not shortened. -/
theorem shortNumber_zero {digits : Int} (h : 1 ≤ digits) : shortNumber digits 0 = "0" := by
  have hunnamed : namedNumbers.find? (fun named => named.1 == 0) = none := by decide +kernel
  have hlength : ¬ digits < (Numeral.render 0).length := by
    have hone : (Numeral.render 0).length = 1 := by decide +kernel
    omega
  rw [shortNumber, hunnamed]
  exact if_neg hlength

/-- Ranges with the same canonical text look the same, if a number may have a digit at least. -/
theorem short_eq_of_exact_eq {digits : Int} (hdigits : 1 ≤ digits) {r s : ValueRange} (h : r.exact = s.exact) :
    r.short digits = s.short digits :=
  renderWith_eq_of_closed_eq (shortNumber_zero hdigits) ((exact_eq_iff r s).mp h)

end RangeAudit.ValueRange
