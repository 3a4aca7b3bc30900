import RangeAudit.Proofs.Domain.CanonicalText

namespace RangeAudit.ValueRange

/-!
# Verdicts and canonical texts

Ranges with the same canonical text are shown as the same domain.  They have the same pieces, the same
exclusions and leave a variable equally unrestricted; but their spans differ if one of them has no lower
bound under its upper bound, and the other has the lower bound zero.  So the verdict on a change follows
from the two texts as long as the spans are not compared, or compare in the same way.

* `shape_of_exact_eq` — what ranges of the same text have in common;
* `OpenBelow`, `span_eq_iff_openBelow` — when their spans are the same;
* `JudgedBySpan`, `Smaller` — when a verdict depends on the spans, and how;
* `classify_eq_iff_of_exact_eq` — when the verdicts on two changes with the same texts are the same.

`not_always_classify_eq_of_exact_eq` gives two changes with the same texts of which one is a narrowing and
the other is not.
-/

/-! ### Ranges of the same text -/

/-- There is no lower bound under the upper bound. -/
def OpenBelow (r : ValueRange) : Prop :=
  ∃ high, r.shape = .bounds none (some high)

/-- Ranges with the same text agree in what counts, or both have bounds, and one has a zero where the other has
    none. -/
theorem shape_of_exact_eq {r s : ValueRange} (h : r.exact = s.exact) :
    r.shape = s.shape ∨
      ∃ low low' high, r.shape = .bounds low high ∧ s.shape = .bounds low' high ∧
        low.getD 0 = low'.getD 0 := by
  have hclosed := (exact_eq_iff r s).mp h
  cases hr : r.shape with
  | bounds low high =>
    cases hs : s.shape with
    | bounds low' high' =>
      -- Only here may the shapes differ: closing reads an open lower side as zero.
      simp only [hr, hs, Shape.closed, Shape.bounds.injEq, Option.some.injEq] at hclosed
      exact .inr ⟨low, low', high, rfl, by rw [hclosed.2], hclosed.1⟩
    | pieces | top => simp [hr, hs, Shape.closed] at hclosed
  | pieces pieces exclusions =>
    cases hs : s.shape with
    | pieces => exact .inl (by simpa [hr, hs, Shape.closed] using hclosed)
    | bounds | top => simp [hr, hs, Shape.closed] at hclosed
  | top =>
    cases hs : s.shape with
    | top => exact .inl rfl
    | bounds | pieces => simp [hr, hs, Shape.closed] at hclosed

/-- How many intervals a range has depends on what counts; bounds are one, and so is the range of which nothing
    is known. -/
theorem pieceCount_eq (r : ValueRange) :
    r.pieceCount = match r.shape with
      | .pieces pieces _ => pieces.length
      | _ => 1 := by
  by_cases hempty : r.intervals.isEmpty
  · cases hlow : r.low <;> cases hhigh : r.high <;> simp [pieceCount, shape, hempty, hlow, hhigh]
  · simp [pieceCount, shape, hempty]

/-- How many excluded values a range has depends on what counts. -/
theorem exclusionCount_eq (r : ValueRange) :
    r.exclusionCount = match r.shape with
      | .pieces _ exclusions => exclusions.length
      | _ => 0 := by
  by_cases hempty : r.intervals.isEmpty
  · cases hlow : r.low <;> cases hhigh : r.high <;> simp [exclusionCount, shape, hempty, hlow, hhigh]
  · simp [exclusionCount, shape, hempty]

/-- How many numbers a range covers depends on what counts, and is finite only between two ends. -/
theorem span_eq (r : ValueRange) :
    r.span = match r.shape with
      | .pieces pieces _ => some (covered pieces)
      | .bounds (some low) (some high) => some (max 0 (high - low + 1))
      | _ => none := by
  by_cases hempty : r.intervals.isEmpty
  · cases hlow : r.low <;> cases hhigh : r.high <;> simp [span, shape, hempty, hlow, hhigh]
  · simp [span, shape, hempty]

/-- The text shows how many intervals there are. -/
theorem pieceCount_eq_of_exact_eq {r s : ValueRange} (h : r.exact = s.exact) :
    r.pieceCount = s.pieceCount := by
  rw [pieceCount_eq, pieceCount_eq]
  obtain hshape | ⟨low, low', high, hr, hs, -⟩ := shape_of_exact_eq h
  · rw [hshape]
  · rw [hr, hs]

/-- The text shows how many values are excluded. -/
theorem exclusionCount_eq_of_exact_eq {r s : ValueRange} (h : r.exact = s.exact) :
    r.exclusionCount = s.exclusionCount := by
  rw [exclusionCount_eq, exclusionCount_eq]
  obtain hshape | ⟨low, low', high, hr, hs, -⟩ := shape_of_exact_eq h
  · rw [hshape]
  · rw [hr, hs]

/-- The text shows whether a range is unrestricted: an absent lower bound counts as zero there. -/
theorem isUnrestricted_eq_of_exact_eq {r s : ValueRange} (h : r.exact = s.exact) :
    r.isUnrestricted = s.isUnrestricted := by
  unfold isUnrestricted
  obtain hshape | ⟨low, low', high, hr, hs, hlow⟩ := shape_of_exact_eq h
  · rw [hshape]
  · rw [hr, hs]
    cases high <;> simp only [hlow]

/-- The spans of ranges of the same text are the same unless one of them has no lower bound under an
    upper bound, where the other one has zero. -/
theorem span_eq_iff_openBelow {r s : ValueRange} (h : r.exact = s.exact) :
    r.span = s.span ↔ (r.OpenBelow ↔ s.OpenBelow) := by
  rw [span_eq, span_eq, OpenBelow, OpenBelow]
  obtain hshape | ⟨low, low', high, hr, hs, hlow⟩ := shape_of_exact_eq h
  · simp only [hshape]
  · rw [hr, hs]
    cases high with
    | none => cases low <;> cases low' <;> simp
    | some high =>
      cases low <;> cases low' <;> simp_all

/-! ### How a verdict is reached -/

/-- The range covers fewer integers than another one, where a range without limit covers more than any
    other. -/
def Smaller (r s : ValueRange) : Prop :=
  ∃ count, r.span = some count ∧ ∀ other, s.span = some other → count < other

/-- Of two ranges that differ in width only, the one that covers fewer numbers is narrower. -/
theorem compareSpan_of_smaller {previous current : ValueRange} (h : current.Smaller previous) :
    compareSpan previous current = .narrowed := by
  obtain ⟨count, hcount, hless⟩ := h
  cases hprevious : previous.span with
  | none => simp [compareSpan, hcount, hprevious]
  | some other => simp [compareSpan, hcount, hprevious, hless other hprevious]

/-- Any other is wider, also if it covers as many. -/
theorem compareSpan_of_not_smaller {previous current : ValueRange} (h : ¬ current.Smaller previous) :
    compareSpan previous current = .widened := by
  cases hcurrent : current.span with
  | none => cases hprevious : previous.span <;> simp [compareSpan, hcurrent, hprevious]
  | some count =>
    cases hprevious : previous.span with
    | none => exact absurd ⟨count, hcurrent, by simp [hprevious]⟩ h
    | some other =>
      have hle : ¬ count < other := fun hlt => h ⟨count, hcurrent, by simpa [hprevious] using hlt⟩
      simp [compareSpan, hcurrent, hprevious, hle]

/-- Two comparisons of widths have the same outcome if and only if the same range is smaller in both. -/
theorem compareSpan_eq_iff (a b a' b' : ValueRange) :
    compareSpan a b = compareSpan a' b' ↔ (b.Smaller a ↔ b'.Smaller a') := by
  by_cases h : b.Smaller a <;> by_cases h' : b'.Smaller a' <;>
    simp [h, h', compareSpan_of_smaller, compareSpan_of_not_smaller]

/-- The verdict on a change depends on the spans. -/
structure JudgedBySpan (previous current : ValueRange) (kind : Option StepKind) : Prop where
  exact_ne : current.exact ≠ previous.exact
  restricted : current.isUnrestricted = false
  keeps : kind.any StepKind.replaces = false
  pieceCount_eq : current.pieceCount = previous.pieceCount
  exclusionCount_eq : current.exclusionCount = previous.exclusionCount

/-- Where everything else is equal, the verdict is that on the widths. -/
theorem JudgedBySpan.classify_eq {previous current : ValueRange} {kind : Option StepKind}
    (h : JudgedBySpan previous current kind) :
    classify (some previous) current kind = some (compareSpan previous current) := by
  simp [classify, verdict, compareWidth, h.exact_ne, h.restricted, h.keeps, h.pieceCount_eq, h.exclusionCount_eq]

section SameTexts

variable {a a' b b' : ValueRange} (ha : a.exact = a'.exact) (hb : b.exact = b'.exact)
include ha hb

/-- Whether everything else is equal can be seen from the texts. -/
theorem JudgedBySpan.congr {kind : Option StepKind} (h : JudgedBySpan a b kind) :
    JudgedBySpan a' b' kind where
  exact_ne := hb ▸ ha ▸ h.exact_ne
  restricted := isUnrestricted_eq_of_exact_eq hb ▸ h.restricted
  keeps := h.keeps
  pieceCount_eq := by
    rw [← pieceCount_eq_of_exact_eq ha, ← pieceCount_eq_of_exact_eq hb, h.pieceCount_eq]
  exclusionCount_eq := by
    rw [← exclusionCount_eq_of_exact_eq ha, ← exclusionCount_eq_of_exact_eq hb, h.exclusionCount_eq]

/-- Verdicts that do not depend on the spans follow from the texts. -/
theorem classify_eq_of_not_judgedBySpan {kind : Option StepKind} (h : ¬ JudgedBySpan a b kind) :
    classify (some a) b kind = classify (some a') b' kind := by
  simp only [classify, verdict, compareWidth, ← ha, ← hb, ← isUnrestricted_eq_of_exact_eq hb,
    ← pieceCount_eq_of_exact_eq ha, ← pieceCount_eq_of_exact_eq hb,
    ← exclusionCount_eq_of_exact_eq ha, ← exclusionCount_eq_of_exact_eq hb]
  by_cases hexact : b.exact = a.exact
  · simp only [hexact, if_true]
  by_cases hunrestricted : b.isUnrestricted = true
  · simp only [hexact, hunrestricted, if_true, if_false]
  by_cases hkind : kind.any StepKind.replaces = true
  · simp only [hexact, hunrestricted, hkind, if_true, if_false]
  have hcounts : ¬ (b.pieceCount = a.pieceCount ∧ b.exclusionCount = a.exclusionCount) :=
    fun hcounts => h ⟨hexact, by simpa using hunrestricted, by simpa using hkind, hcounts.1, hcounts.2⟩
  -- One of the counts differs, and the first that does decides.
  simp only [hexact, hunrestricted, hkind, if_false]
  rcases Nat.lt_trichotomy b.pieceCount a.pieceCount with hfewer | hsame | hmore
  · simp only [hfewer, if_true]
  · rcases Nat.lt_trichotomy a.exclusionCount b.exclusionCount with hexcluded | hsame' | hincluded
    · simp only [hsame, hexcluded, Nat.lt_irrefl, if_true, if_false]
    · exact absurd ⟨hsame, hsame'.symm⟩ hcounts
    · simp only [hsame, hincluded, Nat.lt_asymm hincluded, Nat.lt_irrefl, if_true, if_false]
  · simp only [hmore, Nat.lt_asymm hmore, if_true, if_false]

end SameTexts

/-- **When texts determine a verdict.** The verdicts on two changes with the same texts, by steps of one kind,
    are the same if and only if they do not depend on the spans, or the new span is smaller than the old one
    in both or in neither.  So they are the same if the old ranges agree in whether they have a lower bound
    under the upper one, and the new ranges as well. -/
theorem classify_eq_iff_of_exact_eq {a a' b b' : ValueRange} (ha : a.exact = a'.exact)
    (hb : b.exact = b'.exact) (kind : Option StepKind) :
    (classify (some a) b kind = classify (some a') b' kind ↔
      (JudgedBySpan a b kind → (b.Smaller a ↔ b'.Smaller a'))) ∧
    ((a.OpenBelow ↔ a'.OpenBelow) → (b.OpenBelow ↔ b'.OpenBelow) →
      classify (some a) b kind = classify (some a') b' kind) := by
  have hiff : classify (some a) b kind = classify (some a') b' kind ↔
      (JudgedBySpan a b kind → (b.Smaller a ↔ b'.Smaller a')) := by
    by_cases hjudged : JudgedBySpan a b kind
    · rw [hjudged.classify_eq, (hjudged.congr ha hb).classify_eq, Option.some.injEq, compareSpan_eq_iff,
        forall_prop_of_true hjudged]
    · exact iff_of_true (classify_eq_of_not_judgedBySpan ha hb hjudged) fun h => absurd h hjudged
  refine ⟨hiff, fun hopen hopen' => hiff.mpr fun _ => ?_⟩
  rw [Smaller, Smaller, (span_eq_iff_openBelow ha).mpr hopen, (span_eq_iff_openBelow hb).mpr hopen']

/-- The range from zero to twenty. -/
def toTwenty : ValueRange :=
  { low := some 0, high := some 20 }

/-- At most nine. -/
def atMostNine : ValueRange :=
  { high := some 9 }

/-- The range from zero to nine. -/
def toNine : ValueRange :=
  { low := some 0, high := some 9 }

/-- An absent lower bound is shown as zero. -/
theorem exact_atMostNine : atMostNine.exact = toNine.exact :=
  (exact_eq_iff ..).mpr rfl

/-- Two ranges with the same text, of which one has no lower bound and the other has zero. -/
theorem classify_eq_iff_of_exact_eq_of_atMostNine :
    toTwenty.exact = toTwenty.exact ∧ atMostNine.exact = toNine.exact ∧
      (classify (some toTwenty) atMostNine (some .assert) = classify (some toTwenty) toNine (some .assert) ↔
        (JudgedBySpan toTwenty atMostNine (some .assert) →
          (atMostNine.Smaller toTwenty ↔ toNine.Smaller toTwenty))) ∧
      ((toTwenty.OpenBelow ↔ toTwenty.OpenBelow) → (atMostNine.OpenBelow ↔ toNine.OpenBelow) →
        classify (some toTwenty) atMostNine (some .assert) =
          classify (some toTwenty) toNine (some .assert)) :=
  ⟨rfl, exact_atMostNine, classify_eq_iff_of_exact_eq rfl exact_atMostNine (some .assert)⟩

/-- **Texts need not determine a verdict.** Of two changes that are shown as the same, one may be a narrowing
    and the other a widening. -/
theorem not_always_classify_eq_of_exact_eq :
    ¬ ∀ (a a' b b' : ValueRange) (kind : Option StepKind), a.exact = a'.exact → b.exact = b'.exact →
      classify (some a) b kind = classify (some a') b' kind := by
  intro h
  have hsame := h toTwenty toTwenty atMostNine toNine none rfl exact_atMostNine
  revert hsame
  decide +kernel

end RangeAudit.ValueRange
