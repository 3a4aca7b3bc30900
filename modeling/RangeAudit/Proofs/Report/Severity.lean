import Mathlib.Data.List.Basic
import RangeAudit.Report.Basic

namespace RangeAudit

/-!
# The lines of a report in the order of severity

A profile is made from the lines that have a risk, the most severe first: its level is that of the first
line, and its numbers come from one pass over all of them.  So the order in which the lines are kept is of no
account, only how many there are of each level.

* `Report.levels_perm`, `Report.pairwise_levels` — the levels are those of the lines, and in order;
* `Report.rank_overall_le_iff`, `Report.overall_mem_levels` — the first one is the most severe one;
* `Report.lineCounts_profile` — the pass counts the lines of each level.
-/

/-! ### Levels -/

namespace RiskLevel

/-- No level is less severe than that of a line without findings. -/
theorem rank_le_rank_clear (level : RiskLevel) : level.rank ≤ clear.rank := by
  cases level <;> decide

end RiskLevel

namespace Report

variable (r : Report)

/-! ### The order -/

/-- Sorting keeps the levels of the lines. -/
theorem levels_perm : r.levels.Perm (r.lines.filterMap fun line => line.risk.map LineRisk.level) := by
  have hlevels : r.riskyLines.map Prod.fst = r.lines.filterMap fun line => line.risk.map LineRisk.level := by
    rw [riskyLines, List.map_filterMap]
    apply List.filterMap_congr
    intro line _
    cases line.risk <;> rfl
  rw [← hlevels, levels]
  exact (List.mergeSort_perm _ _).map Prod.fst

/-- A level that stands before another one is not less severe. -/
theorem pairwise_levels : r.levels.Pairwise fun a b => a.rank ≤ b.rank := by
  have hsorted : (r.riskyLines.mergeSort fun a b => StandsBefore a b).Pairwise StandsBefore := by
    refine (List.pairwise_mergeSort ?_ ?_ _).imp of_decide_eq_true
    · intro a b c hab hbc
      rw [decide_eq_true_eq] at *
      unfold StandsBefore at *
      omega
    · intro a b
      rw [Bool.or_eq_true, decide_eq_true_eq, decide_eq_true_eq]
      unfold StandsBefore
      omega
  rw [levels, List.pairwise_map]
  exact hsorted.imp fun hbefore => hbefore.elim Nat.le_of_lt fun h => Nat.le_of_eq h.1

/-- The levels in a report are those of its lines. -/
theorem mem_levels (level : RiskLevel) :
    level ∈ r.levels ↔ ∃ line ∈ r.lines, ∃ risk, line.risk = some risk ∧ risk.level = level := by
  simp only [r.levels_perm.mem_iff, List.mem_filterMap, Option.map_eq_some_iff]

/-- There are no levels if no line has a risk. -/
theorem levels_eq_nil_iff : r.levels = [] ↔ ∀ line ∈ r.lines, line.risk = none := by
  rw [← List.length_eq_zero_iff, r.levels_perm.length_eq, List.length_eq_zero_iff]
  simp only [List.filterMap_eq_nil_iff, Option.map_eq_none_iff]

/-! ### The first level -/

/-- The level of a profile is that of some line, if any line has a risk. -/
theorem overall_mem_levels (h : r.levels ≠ []) : r.profile.overall ∈ r.levels := by
  rw [profile, List.headD_eq_head?_getD, List.head?_eq_some_head h]
  exact List.head_mem h

/-- No line is more severe than the first one. -/
theorem rank_overall_le {level : RiskLevel} (h : level ∈ r.levels) :
    r.profile.overall.rank ≤ level.rank := by
  have hsorted := r.pairwise_levels
  rw [profile]
  cases hlevels : r.levels with
  | nil =>
    rw [hlevels] at h
    cases h
  | cons first rest =>
    rw [hlevels] at h hsorted
    rcases List.mem_cons.mp h with rfl | hrest
    · exact Nat.le_refl _
    · exact (List.pairwise_cons.mp hsorted).1 level hrest

/-- The level of a profile reaches a bound if and only if that of a line does, or if no level fails to. -/
theorem rank_overall_le_iff (bound : Nat) :
    r.profile.overall.rank ≤ bound ↔
      RiskLevel.clear.rank ≤ bound ∨ ∃ level ∈ r.levels, level.rank ≤ bound := by
  constructor
  · intro hle
    by_cases hnone : r.levels = []
    · -- Without risky lines the profile has the level of a line without findings.
      rw [profile, hnone] at hle
      exact .inl hle
    · exact .inr ⟨_, r.overall_mem_levels hnone, hle⟩
  · rintro (hclear | ⟨level, hlevel, hle⟩)
    · exact Nat.le_trans (RiskLevel.rank_le_rank_clear _) hclear
    · exact Nat.le_trans (r.rank_overall_le hlevel) hle

/-! ### The numbers of lines -/

/-- The pass over the lines adds to each number the lines of its level. -/
theorem foldl_countLine (levels : List RiskLevel) (red orange blue green : Nat) :
    levels.foldl countLine [(.red, red), (.orange, orange), (.blue, blue), (.green, green)] =
      [(.red, red + levels.count .red), (.orange, orange + levels.count .orange),
        (.blue, blue + levels.count .blue), (.green, green + levels.count .green)] := by
  induction levels generalizing red orange blue green with
  | nil => rfl
  | cons level rest ih =>
    rw [List.foldl_cons]
    -- One of the four numbers grows by one, unless the line has no level.
    cases level with
    | red => exact (ih (red + 1) orange blue green).trans (by simp [Nat.add_right_comm, Nat.add_assoc])
    | orange => exact (ih red (orange + 1) blue green).trans (by simp [Nat.add_right_comm, Nat.add_assoc])
    | blue => exact (ih red orange (blue + 1) green).trans (by simp [Nat.add_right_comm, Nat.add_assoc])
    | green => exact (ih red orange blue (green + 1)).trans (by simp [Nat.add_right_comm, Nat.add_assoc])
    | clear => exact (ih red orange blue green).trans (by simp)

/-- A profile has, for every level that a gate may be set to, the number of lines of this level. -/
theorem lineCounts_profile :
    r.profile.lineCounts = RiskLevel.gates.map fun level => (level, r.levels.count level) := by
  rw [profile]
  refine (foldl_countLine r.levels 0 0 0 0).trans ?_
  simp only [Nat.zero_add, RiskLevel.gates, List.map_cons, List.map_nil]

end Report

end RangeAudit
