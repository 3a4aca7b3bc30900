import Mathlib.Data.Int.ConditionallyCompleteOrder
import Mathlib.Data.List.Chain
import Mathlib.Data.Prod.Lex
import Mathlib.Order.ConditionallyCompleteLattice.Basic
import RangeAudit.Proofs.Domain.Verdict
import RangeAudit.Proofs.Domain.Writing

namespace RangeAudit.ValueRange

/-!
# Narrowing as an order

A change that is judged by width is a narrowing if and only if the range gets smaller in one order: by the
number of pieces first, then by the number of exclusions, of which more are smaller, and last by the span,
where no limit is above every number.  So ranges cannot be narrowed in a circle.

* `extent` — the place of a range in this order;
* `extent_lt_iff`, `compareWidth_eq_narrowed_iff` — the comparisons of a verdict, one after the other, are those
  of the order;
* `Narrows` — some step narrows one range to another, and `Narrows.extent_lt` that this goes down in the order;
* `pairwise_extent_of_isChain` — all along a chain of narrowings every range is smaller than all before it;
* `judge_eq_narrowed_iff_extent_lt` — verdicts by width, and that narrowings do not come back.
-/

/-! ### The order -/

/-- How many integers are covered, where no limit is above every number. -/
def limit (r : ValueRange) : WithTop ℤ :=
  match r.span with
  | some count => count
  | none => ⊤

/-- How much a range leaves open: the number of its pieces, then that of its exclusions, of which more
    leave less, then its span. -/
def extent (r : ValueRange) : ℕ ×ₗ ℤ ×ₗ WithTop ℤ :=
  toLex (r.pieceCount, toLex (-(r.exclusionCount : ℤ), r.limit))

/-- The limit of a range is below that of another if it covers fewer numbers, where no limit is above all. -/
theorem limit_lt_iff (r s : ValueRange) : r.limit < s.limit ↔ r.Smaller s := by
  rw [limit, limit, Smaller]
  cases r.span with
  | none => simp
  | some count =>
    cases s.span with
    -- Every number is below no limit.
    | none => simp [WithTop.coe_lt_top]
    | some other => simp [WithTop.coe_lt_coe]

/-- Extents are compared by the intervals, then by the excluded values, of which more make less, and then by the
    widths. -/
theorem extent_lt_iff (r s : ValueRange) :
    r.extent < s.extent ↔
      r.pieceCount < s.pieceCount ∨ r.pieceCount = s.pieceCount ∧
        (s.exclusionCount < r.exclusionCount ∨ r.exclusionCount = s.exclusionCount ∧ r.Smaller s) := by
  have hless : -(r.exclusionCount : ℤ) < -(s.exclusionCount : ℤ) ↔ s.exclusionCount < r.exclusionCount := by
    omega
  have heq : -(r.exclusionCount : ℤ) = -(s.exclusionCount : ℤ) ↔ r.exclusionCount = s.exclusionCount := by
    omega
  simp only [extent, Prod.Lex.toLex_lt_toLex, limit_lt_iff, hless, heq]

/-! ### Verdicts by width -/

/-- A range of smaller extent is narrower. -/
theorem compareWidth_of_extent_lt {a b : ValueRange} (h : b.extent < a.extent) :
    compareWidth a b = .narrowed := by
  rcases (extent_lt_iff b a).mp h with hfewer | ⟨hsame, hexcluded | ⟨hsame', hsmaller⟩⟩
  · simp [compareWidth, hfewer]
  · simp [compareWidth, hsame, hexcluded]
  · simp [compareWidth, hsame, hsame', compareSpan_of_smaller hsmaller]

/-- Any other is wider, also if it is of the same extent. -/
theorem compareWidth_of_not_extent_lt {a b : ValueRange} (h : ¬ b.extent < a.extent) :
    compareWidth a b = .widened := by
  rw [extent_lt_iff] at h
  -- At each comparison a difference in favour of narrowing is excluded, and equality leads to the next.
  rcases Nat.lt_trichotomy b.pieceCount a.pieceCount with hfewer | hsame | hmore
  · exact absurd (.inl hfewer) h
  · rcases Nat.lt_trichotomy a.exclusionCount b.exclusionCount with hexcluded | hsame' | hincluded
    · exact absurd (.inr ⟨hsame, .inl hexcluded⟩) h
    · have hsmaller : ¬ b.Smaller a := fun hsmaller => h (.inr ⟨hsame, .inr ⟨hsame'.symm, hsmaller⟩⟩)
      simp [compareWidth, hsame, hsame', compareSpan_of_not_smaller hsmaller]
    · simp [compareWidth, hsame, hincluded, Nat.lt_asymm hincluded]
  · simp [compareWidth, hmore, Nat.lt_asymm hmore]

/-- The comparisons that a verdict by width makes, one after the other, are those of the order. -/
theorem compareWidth_eq_narrowed_iff (a b : ValueRange) :
    compareWidth a b = .narrowed ↔ b.extent < a.extent := by
  by_cases h : b.extent < a.extent
  · simp [h, compareWidth_of_extent_lt]
  · simp [h, compareWidth_of_not_extent_lt]

/-- Nothing else is wider. -/
theorem compareWidth_eq_widened_iff (a b : ValueRange) :
    compareWidth a b = .widened ↔ ¬ b.extent < a.extent := by
  by_cases h : b.extent < a.extent
  · simp [h, compareWidth_of_extent_lt]
  · simp [h, compareWidth_of_not_extent_lt]

/-- Only assignments and havocs replace domains. -/
theorem replaces_eq_false {kind : Option StepKind} (hassign : kind ≠ some .assign)
    (hhavoc : kind ≠ some .havoc) : kind.any StepKind.replaces = false := by
  cases kind with
  | none => rfl
  | some kind => cases kind <;> simp_all [StepKind.replaces]

/-- A step that does not replace domains is judged by width, unless the text stays or the new range is
    unrestricted. -/
theorem classify_eq_some_iff {kind : Option StepKind} (hkind : kind.any StepKind.replaces = false)
    {outcome : ChangeKind} (houtcome : outcome ≠ .unrestricted) (a b : ValueRange) :
    classify (some a) b kind = some outcome ↔
      b.isUnrestricted = false ∧ a.exact ≠ b.exact ∧ compareWidth a b = outcome := by
  rw [ne_comm (a := a.exact)]
  by_cases hexact : b.exact = a.exact
  · simp [classify, hexact]
  · by_cases hopen : b.isUnrestricted = true
    · simp [classify, verdict, hexact, hopen, houtcome.symm]
    · simp [classify, verdict, hexact, hopen, hkind]

/-- The same of the verdict that is reached, where both ranges have to be written. -/
theorem judge_eq_some_iff {kind : Option StepKind} (hkind : kind.any StepKind.replaces = false)
    {outcome : ChangeKind} (houtcome : outcome ≠ .unrestricted) (a b : ValueRange) :
    judge (some a) b kind = .ok (some outcome) ↔
      a.Writable ∧ b.Writable ∧ b.isUnrestricted = false ∧ a.write ≠ b.write ∧ compareWidth a b = outcome := by
  rw [judge_eq_ok_iff, classify_eq_some_iff hkind houtcome]
  refine and_congr_right fun ha => and_congr_right fun hb => ?_
  rw [ne_eq, ne_eq, ha.write_eq_iff hb]

/-! ### Chains -/

/-- Some step narrows the first range to the second. -/
def Narrows (a b : ValueRange) : Prop :=
  ∃ kind, judge (some a) b kind = .ok (some .narrowed)

/-- A step that replaces domains never narrows them. -/
theorem not_replaces_of_narrowed {a b : ValueRange} {kind : Option StepKind}
    (h : classify (some a) b kind = some .narrowed) : kind.any StepKind.replaces = false := by
  by_contra hkind
  rw [Bool.not_eq_false] at hkind
  simp only [classify, verdict, hkind, if_true] at h
  split at h
  · cases h
  · split at h <;> cases h

/-- **Step.** A narrowing goes down in the order. -/
theorem Narrows.extent_lt {a b : ValueRange} (h : Narrows a b) : b.extent < a.extent := by
  obtain ⟨kind, hjudged⟩ := h
  have hverdict := (judge_eq_ok_iff.mp hjudged).2.2
  have hwidth := (classify_eq_some_iff (not_replaces_of_narrowed hverdict) (by decide) a b).mp hverdict
  exact (compareWidth_eq_narrowed_iff a b).mp hwidth.2.2

/-- **Run.** Along a chain of narrowings every range is below all before it. -/
theorem pairwise_extent_of_isChain {ranges : List ValueRange} (h : ranges.IsChain Narrows) :
    ranges.Pairwise fun a b => b.extent < a.extent := by
  induction ranges with
  | nil => exact .nil
  | cons first rest ih =>
    cases rest with
    | nil => exact List.pairwise_singleton ..
    | cons second rest =>
      obtain ⟨hfirst, hrest⟩ := List.isChain_cons_cons.mp h
      -- The rest lies below `second` and `second` below `first`.
      have hbelow := ih hrest
      refine List.pairwise_cons.mpr ⟨fun r hr => ?_, hbelow⟩
      have hstep : second.extent < first.extent := hfirst.extent_lt
      rcases List.mem_cons.mp hr with rfl | hr
      · exact hstep
      · have hlater : r.extent < second.extent := (List.pairwise_cons.mp hbelow).1 r hr
        exact hlater.trans hstep

/-- **Narrowing is a strict order.** A step that is no assignment and no havoc narrows a range if and only if
    both ranges can be written, the text changes, the new range is not unrestricted and it is smaller by
    pieces, exclusions and span, in this order; if the text changes and the new range is neither unrestricted
    nor smaller, the step widens it.  If one of the ranges cannot be written, there is no verdict, but the
    judgement fails.  No narrowing is undone by another one, and a chain of narrowings, by steps of any kinds,
    never comes back to a range. -/
theorem judge_eq_narrowed_iff_extent_lt (kind : Option StepKind) (hassign : kind ≠ some .assign)
    (hhavoc : kind ≠ some .havoc) :
    (∀ a b, judge (some a) b kind = .ok (some .narrowed) ↔
      a.Writable ∧ b.Writable ∧ b.isUnrestricted = false ∧ a.write ≠ b.write ∧ b.extent < a.extent) ∧
    (∀ a b, judge (some a) b kind = .ok (some .widened) ↔
      a.Writable ∧ b.Writable ∧ b.isUnrestricted = false ∧ a.write ≠ b.write ∧ ¬ b.extent < a.extent) ∧
    (∀ a b, ¬ (a.Writable ∧ b.Writable) → judge (some a) b kind = .error .numeralTooLong) ∧
    (∀ a b, Narrows a b → ¬ Narrows b a) ∧
    ∀ ranges : List ValueRange, ranges.IsChain Narrows → ranges.Nodup := by
  have hkind : kind.any StepKind.replaces = false := replaces_eq_false hassign hhavoc
  refine ⟨fun a b => ?_, fun a b => ?_, fun a b h => ?_, fun a b hab hba => ?_, fun ranges hchain => ?_⟩
  · rw [judge_eq_some_iff hkind (by decide), compareWidth_eq_narrowed_iff]
  · rw [judge_eq_some_iff hkind (by decide), compareWidth_eq_widened_iff]
  · rw [judge_eq, if_neg h]
  · exact lt_asymm hab.extent_lt hba.extent_lt
  · -- A chain that came back to a range would put its extent below itself.
    refine (pairwise_extent_of_isChain hchain).imp fun hless heq => ?_
    rw [heq] at hless
    exact lt_irrefl _ hless

/-- Two intervals, then no more than a lower bound, then two bounds, then an interval without one of
    its values. -/
def fourRanges : List ValueRange :=
  [{ intervals := [⟨0, 4⟩, ⟨6, 9⟩] }, { low := some 5 }, { low := some 5, high := some 9 },
    { intervals := [⟨0, 90⟩], exclusions := [6] }]

/-- Each of the four ranges narrows the one before it. -/
theorem isChain_fourRanges : fourRanges.IsChain Narrows := by
  have hnarrows : ∀ a b, judge (some a) b none = .ok (some .narrowed) → Narrows a b :=
    fun a b h => ⟨none, h⟩
  refine .cons_cons (hnarrows _ _ ?_) (.cons_cons (hnarrows _ _ ?_) (.cons_cons (hnarrows _ _ ?_)
    (.singleton _))) <;> exact judge_eq_ok_iff.mpr (by decide +kernel)

/-- From twenty down to nine a range is narrowed. -/
theorem narrows_toNine : Narrows toTwenty toNine :=
  ⟨none, judge_eq_ok_iff.mpr (by decide +kernel)⟩

/-- At most a number that has one digit more than a numeral may have. -/
def toUnwritten : ValueRange :=
  { low := some 0, high := some (10 ^ Numeral.maxDigits) }

/-- This range has a number with too many digits to be written. -/
theorem not_writable_toUnwritten : ¬ toUnwritten.Writable := by
  intro h
  have hfits := Numeral.fits_iff.mp (h _ (List.mem_cons_of_mem 0 List.mem_cons_self))
  have hten : (10 : Int).natAbs = 10 := rfl
  rw [Int.natAbs_pow, hten] at hfits
  exact lt_irrefl _ hfits

/-- From twenty down to nine a step narrows the range; from a number of too many digits it comes to no
    verdict. -/
theorem judge_eq_narrowed_iff_extent_lt_of_fourRanges :
    (some StepKind.assert ≠ some .assign ∧ some StepKind.assert ≠ some .havoc) ∧
      (judge (some toTwenty) toNine (some .assert) = .ok (some .narrowed) ↔
        toTwenty.Writable ∧ toNine.Writable ∧ toNine.isUnrestricted = false ∧
          toTwenty.write ≠ toNine.write ∧ toNine.extent < toTwenty.extent) ∧
      (¬ (toUnwritten.Writable ∧ toNine.Writable) ∧
        judge (some toUnwritten) toNine (some .assert) = .error .numeralTooLong) ∧
      (Narrows toTwenty toNine ∧ ¬ Narrows toNine toTwenty) ∧
      fourRanges.IsChain Narrows ∧ fourRanges.Nodup := by
  have hunwritten : ¬ (toUnwritten.Writable ∧ toNine.Writable) := fun h => not_writable_toUnwritten h.1
  obtain ⟨hnarrowed, -, hfails, hasymm, hchain⟩ :=
    judge_eq_narrowed_iff_extent_lt (some .assert) (by decide) (by decide)
  exact ⟨⟨by decide, by decide⟩, hnarrowed _ _, ⟨hunwritten, hfails _ _ hunwritten⟩,
    ⟨narrows_toNine, hasymm _ _ narrows_toNine⟩, isChain_fourRanges, hchain _ isChain_fourRanges⟩

end RangeAudit.ValueRange
