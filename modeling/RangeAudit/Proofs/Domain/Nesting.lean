import Mathlib.Data.Int.Interval
import Mathlib.Data.Set.Card
import Mathlib.Data.Set.Finite.Lattice
import Mathlib.Order.CompletePartialOrder
import RangeAudit.Proofs.Domain.Narrowing

namespace RangeAudit

/-!
# Nested ranges

As long as the intervals of a range do not overlap, its span is the number of integers that it covers.  So of
two ranges with as many pieces and exclusions, one that covers fewer integers than the other is the smaller
one, and a change between them is judged by which of them is nested in the other.

* `ValueRange.integers` — what a range covers, without regard to the excluded values;
* `ValueRange.Solid` — the intervals do not overlap, or there are two bounds in order;
* `ValueRange.Solid.span_eq_ncard` — then the span is the number of integers;
* `ValueRange.Solid.smaller_of_ssubset` — and a range that is nested in another one is smaller;
* `ValueRange.judge_of_nested` — how a change between nested ranges is judged.
-/

namespace Interval

/-- The integers of an interval. -/
def integers (piece : Interval) : Set ℤ :=
  Set.Icc piece.low piece.high

/-- No integer is in both intervals. -/
def Apart (a b : Interval) : Prop :=
  ∀ n ∈ a.integers, n ∉ b.integers

/-- An interval covers finitely many integers. -/
theorem finite_integers (piece : Interval) : piece.integers.Finite :=
  Set.finite_Icc _ _

/-- How many integers there are from one end of an interval to the other. -/
theorem ncard_integers {piece : Interval} (h : piece.low ≤ piece.high) :
    (piece.integers.ncard : ℤ) = piece.high - piece.low + 1 := by
  have hcard : piece.integers.ncard = (piece.high + 1 - piece.low).toNat := by
    rw [integers, ← Finset.coe_Icc, Set.ncard_coe_finset, Int.card_Icc]
  omega

end Interval

namespace ValueRange

/-- The integers that a range covers: those of its intervals, or those between its bounds, of which an
    absent one is no limit. -/
def integers (r : ValueRange) : Set ℤ :=
  match r.shape with
  | .pieces pieces _ => ⋃ piece ∈ pieces, piece.integers
  | .bounds low high => {n | (∀ k ∈ low, k ≤ n) ∧ ∀ k ∈ high, n ≤ k}
  | .top => Set.univ

/-- The range has intervals, each with its ends in order and without a common integer; or it has none,
    but both bounds, in order. -/
inductive Solid (r : ValueRange) : Prop where
  | pieces (some : r.intervals ≠ []) (ordered : ∀ piece ∈ r.intervals, piece.low ≤ piece.high)
      (apart : r.intervals.Pairwise Interval.Apart)
  | bounds (low high : ℤ) (none : r.intervals = []) (low_eq : r.low = some low)
      (high_eq : r.high = some high) (ordered : low ≤ high)

/-! ### Intervals that do not overlap -/

/-- So do intervals. -/
theorem finite_biUnion (pieces : List Interval) : (⋃ piece ∈ pieces, piece.integers).Finite :=
  Set.Finite.biUnion (List.finite_toSet pieces) fun piece _ => piece.finite_integers

/-- The lengths of intervals without a common integer add up to the number of integers in all of them. -/
theorem ncard_biUnion {pieces : List Interval} (hordered : ∀ piece ∈ pieces, piece.low ≤ piece.high)
    (hapart : pieces.Pairwise Interval.Apart) :
    ((⋃ piece ∈ pieces, piece.integers).ncard : ℤ) = covered pieces := by
  induction pieces with
  | nil => simp [covered]
  | cons piece rest ih =>
    obtain ⟨hfirst, hrest⟩ := List.pairwise_cons.mp hapart
    -- The first interval is apart from the union of the others.
    have hunion : ⋃ other ∈ piece :: rest, other.integers =
        piece.integers ∪ ⋃ other ∈ rest, other.integers := by
      ext n
      simp
    have hdisjoint : Disjoint piece.integers (⋃ other ∈ rest, other.integers) :=
      Set.disjoint_iUnion₂_right.mpr fun other hother => Set.disjoint_left.mpr (hfirst other hother)
    have hpiece := Interval.ncard_integers (hordered piece List.mem_cons_self)
    have hothers := ih (fun other hother => hordered other (List.mem_cons_of_mem _ hother)) hrest
    rw [hunion, Set.ncard_union_eq hdisjoint piece.finite_integers (finite_biUnion rest), Nat.cast_add,
      hpiece, hothers, covered]

/-! ### Solid ranges -/

/-- A range with intervals covers what these cover, whatever bounds it has besides. -/
theorem integers_of_ne_nil {r : ValueRange} (h : r.intervals ≠ []) :
    r.integers = ⋃ piece ∈ r.intervals, piece.integers := by
  rw [integers, shape_of_ne_nil h]

/-- Two bounds cover what the interval between them does. -/
theorem integers_of_bounds {r : ValueRange} {low high : ℤ} (hnil : r.intervals = [])
    (hlow : r.low = some low) (hhigh : r.high = some high) :
    r.integers = (Interval.mk low high).integers := by
  have hbounded : r.IsBounded := ⟨hnil, .inl (by simp [hlow])⟩
  rw [integers, hbounded.shape_eq, hlow, hhigh]
  ext n
  simp [Interval.integers]

namespace Solid

variable {r s : ValueRange}

/-- A solid range covers finitely many integers. -/
theorem finite_integers (h : r.Solid) : r.integers.Finite := by
  cases h with
  | pieces hsome => exact integers_of_ne_nil hsome ▸ finite_biUnion r.intervals
  | bounds low high hnil hlow hhigh =>
    exact integers_of_bounds hnil hlow hhigh ▸ Interval.finite_integers _

/-- The span of a solid range is the number of the integers that it covers. -/
theorem span_eq_ncard (h : r.Solid) : r.span = some (r.integers.ncard : ℤ) := by
  cases h with
  | pieces hsome hordered hapart =>
    rw [integers_of_ne_nil hsome, ncard_biUnion hordered hapart, span, if_neg (by simpa using hsome)]
  | bounds low high hnil hlow hhigh hordered =>
    have hcount : max 0 (high - low + 1) = high - low + 1 := by omega
    rw [integers_of_bounds hnil hlow hhigh, Interval.ncard_integers hordered, span, hlow, hhigh, hnil]
    exact congrArg some hcount

/-- What covers fewer integers is smaller. -/
theorem smaller_of_ssubset (hr : r.Solid) (hs : s.Solid) (h : r.integers ⊂ s.integers) : r.Smaller s := by
  have hlt : r.integers.ncard < s.integers.ncard := Set.ncard_lt_ncard h hs.finite_integers
  -- Both spans are numbers of integers, so neither is without a limit.
  refine ⟨_, hr.span_eq_ncard, fun other hother => ?_⟩
  rw [hs.span_eq_ncard, Option.some.injEq] at hother
  omega

/-- A solid range has a lower end. -/
theorem not_openBelow (h : r.Solid) : ¬ r.OpenBelow := by
  rintro ⟨high, hshape⟩
  cases h with
  | pieces hsome => simp [shape_of_ne_nil hsome] at hshape
  | bounds low high' hnil hlow hhigh =>
    have hbounded : r.IsBounded := ⟨hnil, .inl (by simp [hlow])⟩
    simp [hbounded.shape_eq, hlow] at hshape

/-- Solid ranges of different spans have different texts. -/
theorem exact_ne_of_smaller (hr : r.Solid) (hs : s.Solid) (h : r.Smaller s) : r.exact ≠ s.exact := by
  intro hexact
  have hspan : r.span = s.span :=
    (span_eq_iff_openBelow hexact).mpr (iff_of_false hr.not_openBelow hs.not_openBelow)
  obtain ⟨count, hcount, hless⟩ := h
  exact lt_irrefl count (hless count (hspan ▸ hcount))

end Solid

/-! ### Verdicts -/

/-- Of two ranges, at most one is smaller than the other. -/
theorem Smaller.asymm {r s : ValueRange} (h : r.Smaller s) : ¬ s.Smaller r := by
  rw [← limit_lt_iff] at h ⊢
  exact lt_asymm h

/-- With as many intervals and excluded values, all depends on the spans. -/
theorem compareWidth_of_counts_eq {a b : ValueRange} (hpieces : a.pieceCount = b.pieceCount)
    (hexclusions : a.exclusionCount = b.exclusionCount) : compareWidth a b = compareSpan a b := by
  simp [compareWidth, hpieces, hexclusions]

/-- **Nested ranges.** The span of a solid range is the number of integers that it covers.  Of two solid ranges
    with as many pieces and exclusions, let the new one not be unrestricted, and let the step be no assignment
    and no havoc: if the new range covers fewer integers than the old one and none besides, the change is a
    narrowing; if it covers all of them and more, it is a widening.  Only if a number of the two ranges is too
    long to be written, the judgement fails. -/
theorem judge_of_nested :
    (∀ r : ValueRange, r.Solid → r.integers.Finite ∧ r.span = some (r.integers.ncard : ℤ)) ∧
    ∀ (a b : ValueRange) (kind : Option StepKind), a.Solid → b.Solid → a.pieceCount = b.pieceCount →
      a.exclusionCount = b.exclusionCount → b.isUnrestricted = false → kind ≠ some .assign →
      kind ≠ some .havoc →
      (b.integers ⊂ a.integers → judge (some a) b kind =
        if a.Writable ∧ b.Writable then .ok (some .narrowed) else .error .numeralTooLong) ∧
      (a.integers ⊂ b.integers → judge (some a) b kind =
        if a.Writable ∧ b.Writable then .ok (some .widened) else .error .numeralTooLong) := by
  refine ⟨fun r hr => ⟨hr.finite_integers, hr.span_eq_ncard⟩, ?_⟩
  intro a b kind ha hb hpieces hexclusions hrestricted hassign hhavoc
  have hkind := replaces_eq_false hassign hhavoc
  have hwidth := compareWidth_of_counts_eq hpieces hexclusions
  -- Counts agree, so the comparison falls to the spans, and a strict inclusion of finite sets shows there.
  constructor
  · intro hnested
    have hsmaller : b.Smaller a := hb.smaller_of_ssubset ha hnested
    have hverdict : classify (some a) b kind = some .narrowed :=
      (classify_eq_some_iff hkind (by decide) a b).mpr ⟨hrestricted, (hb.exact_ne_of_smaller ha hsmaller).symm,
        hwidth.trans (compareSpan_of_smaller hsmaller)⟩
    rw [judge_eq, hverdict]
  · intro hnested
    have hsmaller : a.Smaller b := ha.smaller_of_ssubset hb hnested
    have hverdict : classify (some a) b kind = some .widened :=
      (classify_eq_some_iff hkind (by decide) a b).mpr ⟨hrestricted, ha.exact_ne_of_smaller hb hsmaller,
        hwidth.trans (compareSpan_of_not_smaller hsmaller.asymm)⟩
    rw [judge_eq, hverdict]

/-- Between two bounds. -/
def fromZeroToForty : ValueRange :=
  { low := some 0, high := some 40 }

/-- An interval within these bounds. -/
def fromThreeToNine : ValueRange :=
  { intervals := [⟨3, 9⟩], low := some (-1) }

/-- An interval within two bounds, entered and left. -/
theorem judge_of_nested_fromThreeToNine :
    (fromZeroToForty.Solid ∧ fromThreeToNine.Solid ∧
      fromZeroToForty.pieceCount = fromThreeToNine.pieceCount ∧
      fromZeroToForty.exclusionCount = fromThreeToNine.exclusionCount ∧
      fromZeroToForty.isUnrestricted = false ∧ fromThreeToNine.isUnrestricted = false ∧
      some StepKind.assert ≠ some .assign ∧ some StepKind.assert ≠ some .havoc) ∧
    (fromThreeToNine.integers.Finite ∧
      fromThreeToNine.span = some (fromThreeToNine.integers.ncard : ℤ)) ∧
    fromThreeToNine.integers ⊂ fromZeroToForty.integers ∧
    judge (some fromZeroToForty) fromThreeToNine (some .assert) = .ok (some .narrowed) ∧
    judge (some fromThreeToNine) fromZeroToForty (some .assert) = .ok (some .widened) := by
  have hbounds : fromZeroToForty.Solid := .bounds 0 40 rfl rfl rfl (by decide)
  have hpieces : fromThreeToNine.Solid :=
    .pieces (List.cons_ne_nil _ _) (by decide) (List.pairwise_singleton ..)
  have hforty : fromZeroToForty.integers = Set.Icc 0 40 := integers_of_bounds rfl rfl rfl
  have hnine : fromThreeToNine.integers = Set.Icc 3 9 := by
    rw [integers_of_ne_nil (List.cons_ne_nil _ _)]
    simp [fromThreeToNine, Interval.integers]
  -- The nesting is shown on the sets, the rest evaluates.
  have hnested : fromThreeToNine.integers ⊂ fromZeroToForty.integers := by
    rw [hforty, hnine]
    exact Set.Icc_ssubset_Icc_left (by decide) (by decide) (by decide)
  have hnarrow := (judge_of_nested.2 fromZeroToForty fromThreeToNine (some .assert) hbounds hpieces rfl
    rfl (by decide +kernel) (by decide) (by decide)).1 hnested
  have hwiden := (judge_of_nested.2 fromThreeToNine fromZeroToForty (some .assert) hpieces hbounds rfl
    rfl (by decide +kernel) (by decide) (by decide)).2 hnested
  rw [if_pos (by decide +kernel)] at hnarrow hwiden
  exact ⟨⟨hbounds, hpieces, rfl, rfl, by decide +kernel, by decide +kernel, by decide, by decide⟩,
    judge_of_nested.1 _ hpieces, hnested, hnarrow, hwiden⟩

end ValueRange

end RangeAudit
