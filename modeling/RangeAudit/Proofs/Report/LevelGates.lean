import RangeAudit.Proofs.Report.RequestedLimits
import RangeAudit.Proofs.Report.Severity

namespace RangeAudit

/-!
# Thresholds and numbers of lines

A gate fails a report for its most severe level, or for the number of its lines of a level.  The most severe
level is that of some line, so that it is counted: a threshold is reached if and only if a limit of a single
line is reached for some level that is at least as severe.

* `Report.linesAt`, `Report.MostSevere` — the lines of a level, and the most severe level of a report;
* `Report.mostSevere_overall` — it is the level in the profile;
* `Report.rank_overall_le_iff_lineCount` — it reaches a threshold if and only if a line is counted;
* `Gate.ThresholdFires`, `Gate.LimitsFire` — a gate reports that its threshold, or one of its limits, is reached;
* `Gate.thresholdFires_iff_limitsFire` — what thresholds and limits say of a report.
-/

/-! ### Levels -/

namespace RiskLevel

/-- What is at least as severe as a level that a gate may be set to is such a level itself. -/
theorem mem_gates_of_rank_le {level threshold : RiskLevel} (h : threshold ∈ gates)
    (hle : level.rank ≤ threshold.rank) : level ∈ gates := by
  have hlt : level.rank < clear.rank := lt_of_le_of_lt hle (rank_lt_clear_of_mem_gates h)
  revert hlt
  cases level <;> decide

end RiskLevel

/-! ### The levels of a report -/

namespace Report

/-- The lines with a risk of a level. -/
def linesAt (r : Report) (level : RiskLevel) : List MarginLine :=
  r.lines.filter fun line => line.risk.any fun risk => risk.level == level

/-- The level is the most severe one of the lines with a risk, and it is clear if there are none. -/
structure MostSevere (r : Report) (level : RiskLevel) : Prop where
  rank_le : ∀ line ∈ r.lines, ∀ risk, line.risk = some risk → level.rank ≤ risk.level.rank
  attained : (∃ line ∈ r.lines, ∃ risk, line.risk = some risk ∧ risk.level = level) ∨
    (∀ line ∈ r.lines, line.risk = none) ∧ level = .clear

variable (r : Report)

/-- A level is counted as often as there are lines of it. -/
theorem count_levels (level : RiskLevel) : r.levels.count level = (r.linesAt level).length := by
  rw [r.levels_perm.count_eq, List.count_filterMap, List.countP_eq_length_filter, linesAt]
  congr 1
  apply List.filter_congr
  intro line _
  cases line.risk <;> rfl

/-- The profile has a number for every level that a gate may be set to. -/
theorem find?_lineCounts {level : RiskLevel} (h : level ∈ RiskLevel.gates) :
    r.profile.lineCounts.find? level = some (r.linesAt level).length := by
  rw [← r.count_levels level, r.lineCounts_profile, Entries.find?_map_pair, if_pos h]

/-- The number of lines of a level is read off the profile. -/
theorem lineCount_profile {level : RiskLevel} (h : level ∈ RiskLevel.gates) :
    r.profile.lineCount level = r.levels.count level := by
  rw [RiskProfile.lineCount, r.find?_lineCounts h, r.count_levels]
  rfl

/-- The level of a profile is the most severe one of the lines. -/
theorem mostSevere_overall : r.MostSevere r.profile.overall where
  rank_le line hline risk hrisk := r.rank_overall_le ((r.mem_levels _).mpr ⟨line, hline, risk, hrisk, rfl⟩)
  attained := by
    by_cases hnone : r.levels = []
    · refine .inr ⟨r.levels_eq_nil_iff.mp hnone, ?_⟩
      rw [profile, hnone]
      rfl
    · exact .inl ((r.mem_levels _).mp (r.overall_mem_levels hnone))

/-- For any threshold that a gate may be set to, the most severe level reaches it if and only if a
    line is counted for some level that does. -/
theorem rank_overall_le_iff_lineCount {threshold : RiskLevel} (h : threshold ∈ RiskLevel.gates) :
    r.profile.overall.rank ≤ threshold.rank ↔
      ∃ level ∈ RiskLevel.gates, level.rank ≤ threshold.rank ∧ 1 ≤ r.profile.lineCount level := by
  have hclear : ¬ RiskLevel.clear.rank ≤ threshold.rank :=
    Nat.not_le_of_lt (RiskLevel.rank_lt_clear_of_mem_gates h)
  rw [rank_overall_le_iff, or_iff_right hclear]
  constructor
  · rintro ⟨level, hlevel, hle⟩
    have hgate : level ∈ RiskLevel.gates := RiskLevel.mem_gates_of_rank_le h hle
    refine ⟨level, hgate, hle, ?_⟩
    rw [r.lineCount_profile hgate]
    exact List.one_le_count_iff.mpr hlevel
  · rintro ⟨level, hgate, hle, hcount⟩
    rw [r.lineCount_profile hgate] at hcount
    exact ⟨level, List.one_le_count_iff.mp hcount, hle⟩

end Report

/-! ### Gates -/

namespace Gate

/-- The gate judges a profile and reports that its threshold is reached. -/
def ThresholdFires (g : Gate) (p : RiskProfile) : Prop :=
  ∃ found, g.violations p.gateInput = .ok found ∧ ∃ overall level, .threshold overall level ∈ found

/-- The specifications of limits are accepted, and their gate reports a violation by a profile. -/
def LimitsFire (specs : List String) (p : RiskProfile) : Prop :=
  ∃ limits found, limitsOf specs = .ok limits ∧ violations { limits := limits } p.gateInput = .ok found ∧
    found ≠ []

/-- A threshold fires if and only if the most severe level reaches it. -/
theorem thresholdFires_iff {spelling : String} {threshold : RiskLevel}
    (hspelling : thresholdLevel spelling = .ok threshold) (limits : Entries RiskLevel Int)
    (p : RiskProfile) :
    ThresholdFires { threshold := some spelling, limits := limits } p ↔
      p.overall.rank ≤ threshold.rank := by
  rw [ThresholdFires, violations_profile hspelling]
  constructor
  · rintro ⟨found, hfound, overall, level, hmem⟩
    obtain rfl := Except.ok.inj hfound
    by_contra hrank
    rw [if_neg hrank, List.nil_append] at hmem
    exact threshold_notMem_limitsReached limits p overall level hmem
  · intro hrank
    rw [if_pos hrank]
    exact ⟨_, rfl, _, _, List.mem_append_left _ List.mem_cons_self⟩

/-- The specification of a limit of one line. -/
theorem limitsOf_single {level : RiskLevel} (h : level ∈ RiskLevel.gates) :
    limitsOf [level.name ++ "=1"] = .ok [(level, 1)] := by
  refine Except.toOption_eq_some.mp ?_
  revert level
  decide +kernel

/-- A limit of one line for a level fires if and only if there is such a line. -/
theorem limitsFire_single_iff {level : RiskLevel} (h : level ∈ RiskLevel.gates) (p : RiskProfile) :
    LimitsFire [level.name ++ "=1"] p ↔ 1 ≤ p.lineCount level := by
  -- A limit of one is reached as soon as a single line has the level.
  have hreaches : p.gateInput.Reaches (level, 1) ↔ 1 ≤ p.lineCount level := by
    simp only [GateInput.Reaches, p.lineCount_gateInput, Except.ok.injEq, exists_eq_left']
    omega
  obtain ⟨found, hfound, hiff⟩ := enforces_limits [(level, 1)] p.gateInput
    fun limit _ => ⟨_, p.lineCount_gateInput limit.1⟩
  simp only [List.mem_singleton, exists_eq_left] at hiff
  rw [← hreaches, ← hiff, LimitsFire, limitsOf_single h]
  constructor
  · rintro ⟨_, other, ⟨rfl⟩, hother, hne⟩
    rw [hfound] at hother
    obtain rfl := Except.ok.inj hother
    exact hne
  · intro hne
    exact ⟨_, found, rfl, hfound, hne⟩

/-- **Thresholds and limits tell the same.** In the profile of any report, the overall level is the most severe
    one of the lines with a risk, and the number for a level is that of its lines.  A gate that is set to a
    threshold judges the profile, whatever its limits are; it reports that the threshold is reached if and
    only if a line is counted for some level that is at least as severe, and hence if and only if a gate with
    the limit `<level>=1` for such a level reports a violation.  A threshold that is reached is still reached
    if it is made less severe. -/
theorem thresholdFires_iff_limitsFire (r : Report) :
    r.MostSevere r.profile.overall ∧
    (∀ level ∈ RiskLevel.gates, r.profile.lineCounts.find? level = some (r.linesAt level).length) ∧
    ∀ spelling threshold limits, thresholdLevel spelling = .ok threshold → threshold ∈ RiskLevel.gates →
      (∃ found, violations { threshold := some spelling, limits := limits } r.profile.gateInput =
        .ok found) ∧
      (ThresholdFires { threshold := some spelling, limits := limits } r.profile ↔
        ∃ level ∈ RiskLevel.gates, level.rank ≤ threshold.rank ∧ 1 ≤ r.profile.lineCount level) ∧
      (ThresholdFires { threshold := some spelling, limits := limits } r.profile ↔
        ∃ level ∈ RiskLevel.gates, level.rank ≤ threshold.rank ∧
          LimitsFire [level.name ++ "=1"] r.profile) ∧
      ∀ spelling' threshold', thresholdLevel spelling' = .ok threshold' →
        threshold.rank ≤ threshold'.rank →
        ThresholdFires { threshold := some spelling, limits := limits } r.profile →
        ThresholdFires { threshold := some spelling', limits := limits } r.profile := by
  refine ⟨r.mostSevere_overall, fun level => r.find?_lineCounts, ?_⟩
  intro spelling threshold limits hspelling hgate
  -- The threshold asks for the most severe level; counting the lines of each gate says the same.
  have hcounts : ThresholdFires { threshold := some spelling, limits := limits } r.profile ↔
      ∃ level ∈ RiskLevel.gates, level.rank ≤ threshold.rank ∧ 1 ≤ r.profile.lineCount level :=
    (thresholdFires_iff hspelling limits r.profile).trans (r.rank_overall_le_iff_lineCount hgate)
  refine ⟨⟨_, violations_profile hspelling limits r.profile⟩, hcounts, hcounts.trans ?_, ?_⟩
  · refine exists_congr fun level => and_congr_right fun hlevel => and_congr_right fun _ => ?_
    exact (limitsFire_single_iff hlevel r.profile).symm
  · -- A looser threshold is reached by whatever reaches a stricter one.
    intro spelling' threshold' hspelling' hle hfires
    rw [thresholdFires_iff hspelling] at hfires
    rw [thresholdFires_iff hspelling']
    exact hfires.trans hle

/-- A report of three lines: a call on the first, a finding on the second, and nothing on the third. -/
def reportOfThreeLines : Report where
  functionName := "share"
  lines :=
    [{ number := 1, text := "pool.call(data);",
       risk := some { level := .blue, descriptions := ["External call: pool.call(data);"] } },
     { number := 2, text := "x = a / b;",
       risk := some { level := .orange, descriptions := ["DivisionTruncation: a % b"] } },
     { number := 3, text := "return x;" }]

/-- The report has a line of orange, so the thresholds for orange and blue fire. -/
theorem thresholdFires_iff_limitsFire_of_threeLines :
    (thresholdLevel "Orange" = .ok .orange ∧ .orange ∈ RiskLevel.gates ∧ thresholdLevel "blue" = .ok .blue ∧
      RiskLevel.orange.rank ≤ RiskLevel.blue.rank) ∧
    reportOfThreeLines.MostSevere reportOfThreeLines.profile.overall ∧
    (.blue ∈ RiskLevel.gates ∧ reportOfThreeLines.profile.lineCounts.find? .blue =
      some (reportOfThreeLines.linesAt .blue).length) ∧
    (∃ level ∈ RiskLevel.gates, level.rank ≤ RiskLevel.orange.rank ∧
      LimitsFire [level.name ++ "=1"] reportOfThreeLines.profile) ∧
    ThresholdFires { threshold := some "Orange", limits := [(.red, 2)] } reportOfThreeLines.profile ∧
    ThresholdFires { threshold := some "blue", limits := [(.red, 2)] } reportOfThreeLines.profile := by
  have hspelling : thresholdLevel "Orange" = .ok .orange := by
    refine Except.toOption_eq_some.mp ?_
    decide +kernel
  have hspelling' : thresholdLevel "blue" = .ok .blue := by
    refine Except.toOption_eq_some.mp ?_
    decide +kernel
  have hgate : RiskLevel.orange ∈ RiskLevel.gates := by decide
  have hle : RiskLevel.orange.rank ≤ RiskLevel.blue.rank := by decide
  obtain ⟨hoverall, hcounts, hgates⟩ := thresholdFires_iff_limitsFire reportOfThreeLines
  obtain ⟨-, hiff, hiff', hfurther⟩ := hgates "Orange" .orange [(.red, 2)] hspelling hgate
  -- The line with the finding is counted.
  have hcount : 1 ≤ reportOfThreeLines.profile.lineCount .orange := by
    rw [Report.lineCount_profile _ hgate, Report.count_levels]
    decide
  have hfires : ThresholdFires { threshold := some "Orange", limits := [(.red, 2)] }
      reportOfThreeLines.profile := hiff.mpr ⟨.orange, hgate, Nat.le_refl _, hcount⟩
  exact ⟨⟨hspelling, hgate, hspelling', hle⟩, hoverall, ⟨by decide, hcounts .blue (by decide)⟩,
    hiff'.mp hfires, hfires, hfurther "blue" .blue hspelling' hle hfires⟩

end Gate

end RangeAudit
