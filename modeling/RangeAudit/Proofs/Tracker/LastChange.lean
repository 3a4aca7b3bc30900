import Mathlib.Data.Nat.Find
import Mathlib.Order.Bounds.Defs
import RangeAudit.Proofs.Tracker.Replay

namespace RangeAudit

/-!
# The last change of a variable

The panel gives with each variable the step of its latest mention.  A step may mention a variable with the domain
that it has already, which is no change; the panel does not tell such a step from one that changes the domain.

* `Tracker.Changes`, `Repeats` — a step reports a change, or it mentions the domain that is held;
* `Tracker.changes_iff` — a mention is a change or a repetition;
* `Tracker.lastStep_eq_lastChange_iff` — the step in the panel is that of the last change if and only if it is
  not a repetition.
-/

/-- The step reports a change of the variable. -/
def Tracker.Changes (t : Tracker) (k : Nat) (name : String) : Prop :=
  ∃ diff ∈ t.stepDiffs k false, diff.name = name

instance (t : Tracker) (k : Nat) (name : String) : Decidable (t.Changes k name) :=
  inferInstanceAs (Decidable (∃ diff ∈ t.stepDiffs k false, diff.name = name))

/-- The step mentions the variable with the same domain as the latest mention before it. -/
def Repeats (steps : List Step) (k : Nat) (name : String) : Prop :=
  ∃ (before : Tracked) (now : ValueRange),
    IsLatest steps k name before ∧ Mentions steps k name now ∧ before.range.SameDomain now

/-- The classifier is silent exactly within a domain. -/
theorem classify_eq_none_iff_sameDomain (before now : ValueRange) (kind : Option StepKind) :
    ValueRange.classify (some before) now kind = none ↔ before.SameDomain now := by
  rw [ValueRange.classify_eq_none_iff, ValueRange.exact_eq_iff_sameDomain]

namespace Tracker

variable {t : Tracker} (honce : t.path.ListsOnce)
include honce

/-- A step changes a variable if and only if it reports a change of it. -/
theorem changes_iff_diffAt? (k : Nat) (name : String) : t.Changes k name ↔ t.diffAt? k name ≠ none := by
  have hfilter := filter_stepDiffs honce k name
  constructor
  · rintro ⟨diff, hmem, hname⟩ hnone
    have hdiff : diff ∈ (t.stepDiffs k false).filter fun diff => diff.name = name :=
      List.mem_filter.mpr ⟨hmem, decide_eq_true hname⟩
    rw [hfilter, hnone] at hdiff
    cases hdiff
  · intro hne
    obtain ⟨diff, hdiff⟩ := Option.ne_none_iff_exists'.mp hne
    have hmem : diff ∈ (t.stepDiffs k false).filter fun diff => diff.name = name := by
      rw [hfilter, hdiff]
      exact List.mem_singleton_self diff
    obtain ⟨hmem, hname⟩ := List.mem_filter.mp hmem
    exact ⟨diff, hmem, of_decide_eq_true hname⟩

/-- A step repeats a domain if it mentions the one that is held. -/
theorem repeats_iff (k : Nat) (name : String) :
    Repeats t.path.steps k name ↔
      ∃ before now, t.heldBefore? k name = some before ∧ mentionAt? t.path.steps k name = some now ∧
        before.SameDomain now := by
  simp only [Repeats, ← Tracked.find?_after_eq_some_iff honce, ← mentionAt?_eq_some_iff honce]
  constructor
  · rintro ⟨before, now, hbefore, hnow, hsame⟩
    exact ⟨before.range, now, by rw [heldBefore?, hbefore]; rfl, hnow, hsame⟩
  · rintro ⟨range, now, hheld, hnow, hsame⟩
    obtain ⟨before, hbefore, rfl⟩ := Option.map_eq_some_iff.mp hheld
    exact ⟨before, now, hbefore, hnow, hsame⟩

/-- A step that mentions a variable changes it or repeats it. -/
theorem changes_iff (k : Nat) (name : String) :
    t.Changes k name ↔
      (∃ range, Mentions t.path.steps k name range) ∧ ¬ Repeats t.path.steps k name := by
  simp only [changes_iff_diffAt? honce, repeats_iff honce, ← mentionAt?_eq_some_iff honce, diffAt?]
  cases mentionAt? t.path.steps k name with
  | none => simp
  | some now =>
    cases t.heldBefore? k name with
    | none =>
      -- There is nothing that a first mention could repeat.
      simp [VarDiff.between?, ValueRange.classify]
    | some before =>
      simp [VarDiff.between?, classify_eq_none_iff_sameDomain]

/-- The first step that mentions a variable changes it. -/
theorem exists_changes {k : Nat} {name : String} {range : ValueRange}
    (h : Mentions t.path.steps k name range) : ∃ j ≤ k, t.Changes j name := by
  classical
  have hsome : ∃ j, ∃ range, Mentions t.path.steps j name range := ⟨k, range, h⟩
  refine ⟨Nat.find hsome, Nat.find_min' hsome ⟨range, h⟩, (changes_iff honce _ name).mpr ⟨Nat.find_spec hsome, ?_⟩⟩
  rintro ⟨before, -, hbefore, -⟩
  exact Nat.find_min hsome hbefore.within ⟨before.range, hbefore.mentioned⟩

/-- A variable that is mentioned has a last change. -/
theorem exists_lastChange {j k : Nat} (hj : j ≤ k) {name : String} {range : ValueRange}
    (h : Mentions t.path.steps j name range) : ∃ c, IsGreatest {i | i ≤ k ∧ t.Changes i name} c := by
  obtain ⟨first, hfirst, hchanges⟩ := exists_changes honce h
  have hspec := Nat.findGreatest_spec (P := fun i => t.Changes i name) (hfirst.trans hj) hchanges
  exact ⟨_, ⟨Nat.findGreatest_le k, hspec⟩, fun i hi => Nat.le_findGreatest hi.1 hi.2⟩

end Tracker

/-- **When the panel shows the last change.** The step in a row of the panel is the last one that mentions the
    variable, up to the step that is shown.  There is a last step that reports a change of the variable, and it is
    not a later one.  The two are the same if and only if the step in the row does not repeat the domain that the
    variable has already. -/
theorem Tracker.lastStep_eq_lastChange_iff (t : Tracker) (honce : t.path.ListsOnce) (k : Nat) {row : WatchRow}
    (hrow : row ∈ t.watch k) :
    IsGreatest {j | j ≤ k ∧ ∃ range, Mentions t.path.steps j row.name range} row.lastStep ∧
      ∃ c, IsGreatest {j | j ≤ k ∧ t.Changes j row.name} c ∧ c ≤ row.lastStep ∧
        (row.lastStep = c ↔ ¬ Repeats t.path.steps row.lastStep row.name) := by
  obtain ⟨⟨name, found⟩, hentry, rfl⟩ := (mem_watch_iff honce k row).mp hrow
  have hfound := Entries.find?_eq_some_of_mem (Tracked.nodup_keys_after _ _) hentry
  have hlatest : IsLatest t.path.steps (k + 1) name found :=
    (Tracked.find?_after_eq_some_iff honce _ _ _).mp hfound
  have hwithin : found.lastStep ≤ k := Nat.lt_succ_iff.mp hlatest.within
  -- A change is a mention, so the last change lies at the last mention or before it.
  obtain ⟨c, ⟨hc, hchanges⟩, hgreatest⟩ := exists_lastChange honce hwithin hlatest.mentioned
  obtain ⟨⟨range, hrange⟩, hnot⟩ := (changes_iff honce c name).mp hchanges
  have hle : c ≤ found.lastStep := hlatest.latest c (Nat.lt_succ_iff.mpr hc) range hrange
  refine ⟨⟨⟨hwithin, found.range, hlatest.mentioned⟩, ?_⟩, c, ⟨⟨hc, hchanges⟩, hgreatest⟩, hle, ?_, ?_⟩
  · rintro j ⟨hj, other, hother⟩
    exact hlatest.latest j (Nat.lt_succ_iff.mpr hj) other hother
  · intro heq
    exact heq ▸ hnot
  · -- A last mention that repeats nothing is a change itself.
    intro hnew
    have hchange : t.Changes found.lastStep name :=
      (changes_iff honce _ name).mpr ⟨⟨found.range, hlatest.mentioned⟩, hnew⟩
    exact Nat.le_antisymm (hgreatest ⟨hwithin, hchange⟩) hle

theorem mem_watch_feeTracker_amount :
    { name := "amount", domain := "[0..99]", lastStep := 3, unrestricted := false } ∈ feeTracker.watch 3 := by
  have honce : feePath.ListsOnce := by decide
  refine (Tracker.mem_watch_iff honce 3 _).mpr ⟨("amount", ⟨rangeTo 99, 3⟩), ?_, ?_⟩ <;> decide +kernel

/-- The amount is mentioned last at step 3, where it repeats what it was, so its last change is before that. -/
theorem Tracker.lastStep_eq_lastChange_iff_of_feeTracker :
    feePath.ListsOnce ∧
      { name := "amount", domain := "[0..99]", lastStep := 3, unrestricted := false } ∈ feeTracker.watch 3 ∧
      IsGreatest {j | j ≤ 3 ∧ ∃ range, Mentions feePath.steps j "amount" range} 3 ∧
      ∃ c, IsGreatest {j | j ≤ 3 ∧ feeTracker.Changes j "amount"} c ∧ c ≤ 3 ∧
        (3 = c ↔ ¬ Repeats feePath.steps 3 "amount") := by
  have honce : feePath.ListsOnce := by decide
  exact ⟨honce, mem_watch_feeTracker_amount,
    lastStep_eq_lastChange_iff feeTracker honce 3 mem_watch_feeTracker_amount⟩

/-- **The panel need not show the last change.** The step in a row may report no change of the variable. -/
theorem Tracker.not_always_lastStep_eq_lastChange :
    ¬ ∀ (t : Tracker) (k : Nat) (row : WatchRow), t.path.ListsOnce → row ∈ t.watch k →
      IsGreatest {j | j ≤ k ∧ t.Changes j row.name} row.lastStep := by
  intro h
  obtain ⟨⟨-, hchanges⟩, -⟩ := h feeTracker 3 _ (by decide) mem_watch_feeTracker_amount
  exact absurd hchanges (by decide +kernel)

end RangeAudit
