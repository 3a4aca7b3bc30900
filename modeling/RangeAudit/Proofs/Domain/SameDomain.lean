import RangeAudit.Domain.Change
import RangeAudit.Proofs.Domain.CanonicalText

namespace RangeAudit.ValueRange

/-!
# Ranges that are the same domain

A range carries intervals, exclusions and bounds side by side, and only a part of this counts.  Two ranges are
the same domain if they agree in this part, where a lower bound that is absent is zero.  The canonical text
shows the domain and nothing else.

* `IsBounded`, `SameDomain` — the relation, said without texts;
* `closed_shape_eq_iff` — it is agreement in what counts, and can be decided;
* `exact_eq_iff_sameDomain` — the text identifies the domain;
* `classify_eq_none_iff` — a change goes unreported exactly between the same texts.
-/

/-- There are no intervals, so that the bounds count, and there is one. -/
structure IsBounded (r : ValueRange) : Prop where
  intervals_eq_nil : r.intervals = []
  bound : r.low ≠ none ∨ r.high ≠ none

/-- Two ranges are the same domain: they have the same intervals without the same values; or both are
    given by bounds, with the same upper bound or none and the same lower bound, where none is zero;
    or both are unconstrained. -/
inductive SameDomain (a b : ValueRange) : Prop where
  | pieces (left : a.intervals ≠ []) (right : b.intervals ≠ []) (intervals : a.intervals = b.intervals)
      (exclusions : a.exclusions = b.exclusions)
  | bounds (left : a.IsBounded) (right : b.IsBounded) (high : a.high = b.high)
      (low : a.low.getD 0 = b.low.getD 0)
  | top (left : a.isTop) (right : b.isTop)

/-! ### The part that counts -/

/-- Where there are intervals, they count, with the excluded values. -/
theorem shape_of_ne_nil {r : ValueRange} (h : r.intervals ≠ []) :
    r.shape = .pieces r.intervals r.exclusions := by
  rw [shape, if_neg (by simpa using h)]

/-- Where there are bounds only, they count. -/
theorem IsBounded.shape_eq {r : ValueRange} (h : r.IsBounded) : r.shape = .bounds r.low r.high := by
  have hbound : ¬ (r.low.isNone && r.high.isNone) = true := by simpa [or_iff_not_imp_left] using h.bound
  rw [shape, if_pos (by simpa using h.intervals_eq_nil), if_neg hbound]

/-- Where there is nothing, nothing counts. -/
theorem shape_of_isTop {r : ValueRange} (h : r.isTop) : r.shape = .top := by
  simp only [isTop, Bool.and_eq_true] at h
  simp [shape, h.1.1, h.1.2, h.2]

/-- Intervals count, or bounds, or nothing. -/
theorem pieces_or_bounds_or_top (r : ValueRange) : r.intervals ≠ [] ∨ r.IsBounded ∨ r.isTop := by
  by_cases hintervals : r.intervals = []
  · by_cases hbound : r.low = none ∧ r.high = none
    · exact .inr (.inr (by simp [isTop, hintervals, hbound]))
    · exact .inr (.inl ⟨hintervals, not_and_or.mp hbound⟩)
  · exact .inl hintervals

/-- Two ranges are the same domain if and only if they agree in what counts, where an absent lower bound is
    zero. -/
theorem closed_shape_eq_iff (a b : ValueRange) : a.shape.closed = b.shape.closed ↔ SameDomain a b := by
  constructor
  · intro h
    obtain ha | ha | ha := a.pieces_or_bounds_or_top <;> obtain hb | hb | hb := b.pieces_or_bounds_or_top
    case inl.inl =>
      simp only [shape_of_ne_nil ha, shape_of_ne_nil hb, Shape.closed, Shape.pieces.injEq] at h
      exact .pieces ha hb h.1 h.2
    case inr.inl.inr.inl =>
      simp only [ha.shape_eq, hb.shape_eq, Shape.closed, Shape.bounds.injEq, Option.some.injEq] at h
      exact .bounds ha hb h.2 h.1
    case inr.inr.inr.inr => exact .top ha hb
    -- In the other cases different parts count.
    all_goals
      simp only [shape_of_ne_nil, IsBounded.shape_eq, shape_of_isTop, ha, hb, Shape.closed,
        ne_eq, not_false_eq_true, reduceCtorEq] at h
  · intro h
    cases h with
    | pieces ha hb hintervals hexclusions =>
      rw [shape_of_ne_nil ha, shape_of_ne_nil hb, hintervals, hexclusions]
    | bounds ha hb hhigh hlow => rw [ha.shape_eq, hb.shape_eq, Shape.closed, Shape.closed, hhigh, hlow]
    | top ha hb => rw [shape_of_isTop ha, shape_of_isTop hb]

instance (a b : ValueRange) : Decidable (SameDomain a b) :=
  decidable_of_iff _ (closed_shape_eq_iff a b)

/-! ### Texts -/

/-- There is no verdict if and only if the text stays the same, whatever the step is. -/
theorem classify_eq_none_iff (a b : ValueRange) (kind : Option StepKind) :
    classify (some a) b kind = none ↔ a.exact = b.exact := by
  rw [classify, eq_comm (a := a.exact)]
  by_cases h : b.exact = a.exact
  · rw [if_pos h]
    exact iff_of_true rfl h
  · rw [if_neg h]
    exact iff_of_false (Option.some_ne_none _) h

/-- The canonical texts are the same if and only if the domains are. -/
theorem exact_eq_iff_sameDomain {a b : ValueRange} : a.exact = b.exact ↔ SameDomain a b :=
  (exact_eq_iff a b).trans (closed_shape_eq_iff a b)

end RangeAudit.ValueRange
