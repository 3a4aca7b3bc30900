import Mathlib.Order.MinMax
import RangeAudit.Proofs.Entries.Passes
import RangeAudit.Proofs.Report.Severity
import RangeAudit.Proofs.Session.Views
import RangeAudit.Report.Gate

namespace RangeAudit

/-!
# What the threshold of a gate sees

A gate looks at the profile of a report, and the report has the risks of those lines that the displayed
source has.  The line of a node is taken from the line map, which may name a line that the source does not
have: a finding there is among the risks of the session, but no gate sees it.

* `Gate.limitsReached`, `Gate.violations_profile` — what a gate makes of a profile;
* `Display.HasLine` — the lines that the displayed source has;
* `Report.ofSession_lines` — the lines in the report of a session, and `Report.mem_levels_iff` their levels;
* `Session.violations` — what a gate finds in the report of a session;
* `World.threshold_violated_iff_risk_on_line` — the threshold is violated if and only if a risk on a line of
  the source reaches it.

`World.not_always_threshold_violated` gives a run after which a risk is on a line that the source does not
have, so that it passes every gate.
-/

/-! ### Levels -/

namespace RiskLevel

/-- What a gate may be set to is more severe than nothing. -/
theorem rank_lt_clear_of_mem_gates {level : RiskLevel} (h : level ∈ gates) :
    level.rank < clear.rank := by
  revert level
  decide

/-- A level is found under its name. -/
@[simp] theorem ofName?_name (level : RiskLevel) : ofName? level.name = some level := by
  cases level <;> rfl

/-- Levels have different names. -/
theorem name_injective : Function.Injective name := by
  intro a b h
  have hfound := congrArg ofName? h
  rw [ofName?_name, ofName?_name] at hfound
  exact Option.some.inj hfound

end RiskLevel

/-! ### Gates -/

/-- The number of lines that is given for a level; none if the level is not named. -/
def GateInput.lineCount (input : GateInput) (level : RiskLevel) : Except Fault Int :=
  (input.lineCounts.find? level.name).getD (.ok 0)

/-- A profile can be asked for the number of lines of every level. -/
theorem RiskProfile.lineCount_gateInput (p : RiskProfile) (level : RiskLevel) :
    p.gateInput.lineCount level = .ok (p.lineCount level : Int) := by
  have hfind := Entries.find?_map RiskLevel.name_injective
    (fun n : Nat => (.ok (n : Int) : Except Fault Int)) p.lineCounts level
  simp only [GateInput.lineCount, RiskProfile.gateInput, RiskProfile.lineCount, hfind]
  cases p.lineCounts.find? level <;> rfl

namespace Gate

/-- The violation of one limit by a profile, if it is reached. -/
def limitReached? (p : RiskProfile) (limit : RiskLevel × Int) : Option Violation :=
  if limit.2 ≤ (p.lineCount limit.1 : Int) then some (.limit limit.1 (p.lineCount limit.1) limit.2)
  else none

/-- The limits that a profile reaches, in the alphabetical order of their levels. -/
def limitsReached (limits : Entries RiskLevel Int) (p : RiskProfile) : List Violation :=
  (limits.mergeSort fun a b => !(b.1.name < a.1.name)).filterMap (limitReached? p)

/-- A level reaches a threshold that is not more severe. -/
theorem reaches_name (overall threshold : RiskLevel) :
    reaches overall.name threshold = decide (overall.rank ≤ threshold.rank) := by
  rw [reaches, RiskLevel.ofName?_name, Option.any_some]

/-- A limit is judged by the number of lines of its level. -/
theorem limitViolation?_eq {input : GateInput} {limit : RiskLevel × Int} {count : Int}
    (h : input.lineCount limit.1 = .ok count) :
    limitViolation? input limit =
      .ok (if limit.2 ≤ count then some (.limit limit.1 count limit.2) else none) := by
  rw [GateInput.lineCount] at h
  rw [limitViolation?, h]
  rfl

/-- A profile can be judged by every limit. -/
theorem limitViolation?_profile (p : RiskProfile) (limit : RiskLevel × Int) :
    limitViolation? p.gateInput limit = .ok (limitReached? p limit) :=
  limitViolation?_eq (p.lineCount_gateInput limit.1)

/-- A profile can be judged by all limits. -/
theorem limitViolations_profile (limits : Entries RiskLevel Int) (p : RiskProfile) :
    limitViolations limits p.gateInput = .ok (limitsReached limits p) := by
  have hjudge : limitViolation? p.gateInput = fun limit => pure (limitReached? p limit) :=
    funext (limitViolation?_profile p)
  rw [limitViolations, hjudge, List.mapM_pure]
  exact congrArg Except.ok (List.filterMap_map ..)

/-- A gate with a threshold fails a profile for its most severe level, and for its numbers of lines. -/
theorem violations_profile {spelling : String} {level : RiskLevel}
    (hlevel : thresholdLevel spelling = .ok level) (limits : Entries RiskLevel Int) (p : RiskProfile) :
    violations { threshold := some spelling, limits := limits } p.gateInput =
      .ok ((if p.overall.rank ≤ level.rank then [.threshold p.overall.name level] else []) ++
        limitsReached limits p) := by
  have hthreshold : thresholdViolation (some spelling) p.gateInput =
      .ok (if p.overall.rank ≤ level.rank then [.threshold p.overall.name level] else []) := by
    have hoverall : p.gateInput.overall = p.overall.name := rfl
    simp only [thresholdViolation, hlevel, Except.map, hoverall, reaches_name, decide_eq_true_eq]
  rw [violations, hthreshold, limitViolations_profile]
  rfl

/-- Limits do not count as thresholds. -/
theorem threshold_notMem_limitsReached (limits : Entries RiskLevel Int) (p : RiskProfile)
    (overall : String) (level : RiskLevel) : .threshold overall level ∉ limitsReached limits p := by
  intro hmem
  obtain ⟨limit, -, hlimit⟩ := List.mem_filterMap.mp hmem
  unfold limitReached? at hlimit
  split at hlimit <;> cases hlimit

/-- Whatever the limits are, a threshold is violated if and only if the most severe level reaches it. -/
theorem threshold_violated_iff {spelling : String} {level : RiskLevel}
    (hlevel : thresholdLevel spelling = .ok level) (limits : Entries RiskLevel Int) (p : RiskProfile) :
    ∃ found, violations { threshold := some spelling, limits := limits } p.gateInput = .ok found ∧
      ((∃ overall, .threshold overall level ∈ found) ↔ p.overall.rank ≤ level.rank) := by
  refine ⟨_, violations_profile hlevel limits p, ?_⟩
  constructor
  · rintro ⟨overall, hmem⟩
    by_contra hrank
    rw [if_neg hrank, List.nil_append] at hmem
    exact threshold_notMem_limitsReached limits p overall level hmem
  · intro hrank
    rw [if_pos hrank]
    exact ⟨p.overall.name, List.mem_append_left _ List.mem_cons_self⟩

end Gate

/-! ### Reports -/

/-- The displayed source has a line of this number. -/
def Display.HasLine (d : Display) (line : Int) : Prop :=
  1 ≤ line ∧ line ≤ (Text.linesOf d.source.text).length

/-- The numbers of the margin lines are those of the lines of the source. -/
theorem exists_mem_plainLines_iff {source : String} (hsource : source.isEmpty = false) (line : Int) :
    (∃ plain ∈ plainLines source, (plain.number : Int) = line) ↔
      1 ≤ line ∧ line ≤ (Text.linesOf source).length := by
  have hplain : plainLines source = (Text.linesOf source).zipIdx.map fun line =>
      { number := line.2 + 1, text := line.1 } := by
    simp only [plainLines, hsource, Bool.false_eq_true, if_false, Text.numberedLines, List.map_map,
      Function.comp_def]
  rw [hplain]
  constructor
  · rintro ⟨plain, hplain, rfl⟩
    obtain ⟨⟨text, k⟩, hmem, rfl⟩ := List.mem_map.mp hplain
    have hk : k < (Text.linesOf source).length := List.snd_lt_of_mem_zipIdx hmem
    dsimp only
    omega
  · rintro ⟨hone, hlast⟩
    obtain ⟨k, rfl⟩ : ∃ k : Nat, line = (k + 1 : Nat) := ⟨(line - 1).toNat, by omega⟩
    have hk : k < (Text.linesOf source).length := by omega
    exact ⟨_, List.mem_map_of_mem (List.mk_mem_zipIdx_iff_getElem?.mpr (List.getElem?_eq_getElem hk)),
      rfl⟩

namespace Report

variable {s : Session}

/-- A ready session has a report, with the lines of its source. -/
theorem ofSession_lines (h : s.Ready) (contractName : String) :
    ∃ report, (ofSession contractName s).1 = .ok report ∧ s.marginLines.1 = .ok report.lines := by
  have hread : s.marginLines.2.Ready := h.read .lines
  rw [ofSession, h.functionAnalysis]
  dsimp only
  rw [h.marginLines, hread.paths, hread.riskSummary, hread.stepDiffs]
  split <;> exact ⟨_, rfl, rfl⟩

/-- Without a source, nothing is known of any line. -/
theorem source_isEmpty_of_mem_lineRisks {paths : Option (List PathTrace)} {index : NodeIndex}
    {source : String} {config : Config} {line : Int} {risk : LineRisk}
    (h : (lineRisks paths index source config).find? line = some risk) : source.isEmpty = false := by
  by_contra hempty
  have hnone : lineRisks paths index source config = [] := by
    cases paths with
    | none => rfl
    | some paths => rw [lineRisks, if_pos (by simpa using hempty)]
  rw [hnone] at h
  cases h

/-- The levels in a report are those of the risks on lines of the source. -/
theorem mem_levels_iff (h : s.Ready) {report : Report} (hlines : s.marginLines.1 = .ok report.lines)
    {risks : Entries Int LineRisk} (hrisks : s.riskMap.1 = .ok risks) (level : RiskLevel) :
    level ∈ report.levels ↔
      ∃ line risk, risks.find? line = some risk ∧ s.display.HasLine line ∧ risk.level = level := by
  rw [h.riskMap, Except.ok.injEq] at hrisks
  rw [h.marginLines, Except.ok.injEq, marginLines, hrisks] at hlines
  -- The levels are those of the source's own lines that carry a risk.
  have hlevels : level ∈ report.levels ↔
      ∃ plain ∈ plainLines s.display.source.text, ∃ risk,
        risks.find? plain.number = some risk ∧ risk.level = level := by
    rw [report.levels_perm.mem_iff]
    simp only [← hlines, List.filterMap_map, List.mem_filterMap, Function.comp_apply,
      Option.map_eq_some_iff]
  rw [hlevels]
  constructor
  · rintro ⟨plain, hplain, risk, hrisk, hlevel⟩
    have hsource := source_isEmpty_of_mem_lineRisks (hrisks ▸ hrisk)
    exact ⟨plain.number, risk, hrisk,
      (exists_mem_plainLines_iff hsource plain.number).mp ⟨plain, hplain, rfl⟩, hlevel⟩
  · rintro ⟨line, risk, hrisk, hline, hlevel⟩
    have hsource := source_isEmpty_of_mem_lineRisks (hrisks ▸ hrisk)
    obtain ⟨plain, hplain, rfl⟩ := (exists_mem_plainLines_iff hsource line).mpr hline
    exact ⟨plain, hplain, risk, hrisk, hlevel⟩

end Report

/-! ### Runs -/

/-- Without contracts there is no map of risks. -/
theorem Session.loaded_of_riskMap_ok {s : Session} {risks : Entries Int LineRisk}
    (h : s.riskMap.1 = .ok risks) : s.contracts.isSome := by
  unfold Session.riskMap at h
  split at h
  · cases h
  · rename_i contracts hcontracts
    rw [hcontracts]
    rfl

/-- What a gate finds in the report of a session. -/
def Session.violations (s : Session) (contractName : String) (g : Gate) : Except Fault (List Violation) :=
  (Report.ofSession contractName s).1.bind fun report => g.violations report.profile.gateInput

namespace World

/-- **What a threshold sees.** After every run on a fresh session, whatever the engine answers: if the risks
    of the session can be read, a gate that is set to a threshold judges its report, whatever the limits of
    the gate are.  The threshold is violated if and only if a risk reaches it whose line is one of the
    displayed source. -/
theorem threshold_violated_iff_risk_on_line (config : Config) (moves : List Move)
    {risks : Entries Int LineRisk} (hrisks : ((fresh config).run moves).session.riskMap.1 = .ok risks)
    {spelling : String} {threshold : RiskLevel}
    (hspelling : Gate.thresholdLevel spelling = .ok threshold) (hthreshold : threshold ∈ RiskLevel.gates)
    (limits : Entries RiskLevel Int) (contractName : String) :
    ∃ found,
      ((fresh config).run moves).session.violations contractName
        { threshold := some spelling, limits := limits } = .ok found ∧
      ((∃ overall, .threshold overall threshold ∈ found) ↔
        ∃ line risk, risks.find? line = some risk ∧ risk.level.rank ≤ threshold.rank ∧
          ((fresh config).run moves).session.display.HasLine line) := by
  have hready := ready_run config moves (Session.loaded_of_riskMap_ok hrisks)
  obtain ⟨report, hreport, hlines⟩ := Report.ofSession_lines hready contractName
  obtain ⟨found, hfound, hmem⟩ := Gate.threshold_violated_iff hspelling limits report.profile
  refine ⟨found, ?_, ?_⟩
  · rw [Session.violations, hreport]
    exact hfound
  · -- A report without risks has a level too, but one that reaches no threshold.
    have hclear : ¬ RiskLevel.clear.rank ≤ threshold.rank :=
      Nat.not_le_of_lt (RiskLevel.rank_lt_clear_of_mem_gates hthreshold)
    have hoverall : report.profile.overall.rank ≤ threshold.rank ↔
        ∃ level ∈ report.levels, level.rank ≤ threshold.rank := by
      rw [Report.rank_overall_le_iff, or_iff_right hclear]
    rw [hmem, hoverall]
    simp only [Report.mem_levels_iff hready hlines hrisks]
    constructor
    · rintro ⟨_, ⟨line, risk, hrisk, hline, rfl⟩, hrank⟩
      exact ⟨line, risk, hrisk, hrank, hline⟩
    · rintro ⟨line, risk, hrisk, hrank, hline⟩
      exact ⟨risk.level, ⟨line, risk, hrisk, hline, rfl⟩, hrank⟩

/-- An archive with a finding on a node that its line map puts on the ninth line of a source of one line. -/
def archiveOfLateLine : Archive where
  contracts := [{ id := 1, name := "Vault", functions := [{ id := 10, name := "deposit" }] }]
  analyses :=
    [("Vault", .obj [("functions", .arr [.obj [("functionId", .int 10), ("functionName", .str "deposit"),
      ("paths", .arr [.obj [("feasible", .bool true),
        ("arithChecks", .arr [.obj [("opNode", .int 5), ("check", .str "Overflow")]])]])]])])]
  sources :=
    [(10, .obj [("source", .str "x = a + b;"), ("lineMap", .arr [.arr [.int 9, .int 0, .int 5]])])]

/-- The function with the finding is selected, and everything that is fetched for it comes. -/
def visitOfLateLine : List Move :=
  let engine := archiveOfLateLine.oracle
  [.issue .load, .reply 0 engine,
    .issue (.dispatch (.selectFunction 10 none)), .reply 0 engine, .reply 0 engine,
    .deliver ⟨0, .flowGraph, 10⟩ engine]

/-- The risk of the ninth line. -/
def riskOfLateLine : LineRisk where
  level := .red
  descriptions := ["Overflow: "]

/-- The risk is on line 9. -/
theorem riskMap_visitOfLateLine :
    ((fresh {}).run visitOfLateLine).session.riskMap.1 = .ok [(9, riskOfLateLine)] := by
  refine Except.toOption_eq_some.mp ?_
  decide +kernel

/-- The source ends before line 9, and the gate is judged without the risk on it. -/
theorem threshold_violated_iff_risk_on_line_of_visitOfLateLine :
    ((fresh {}).run visitOfLateLine).session.riskMap.1 = .ok [(9, riskOfLateLine)] ∧
      Gate.thresholdLevel "RED" = .ok .red ∧ .red ∈ RiskLevel.gates ∧
      ∃ found,
        ((fresh {}).run visitOfLateLine).session.violations "Vault"
          { threshold := some "RED", limits := [(.orange, 1)] } = .ok found ∧
        ((∃ overall, .threshold overall .red ∈ found) ↔
          ∃ line risk, Entries.find? [((9 : Int), riskOfLateLine)] line = some risk ∧
            risk.level.rank ≤ RiskLevel.red.rank ∧
            ((fresh {}).run visitOfLateLine).session.display.HasLine line) := by
  have hspelling : Gate.thresholdLevel "RED" = .ok .red := by
    refine Except.toOption_eq_some.mp ?_
    decide +kernel
  have hthreshold : RiskLevel.red ∈ RiskLevel.gates := by decide
  exact ⟨riskMap_visitOfLateLine, hspelling, hthreshold,
    threshold_violated_iff_risk_on_line {} visitOfLateLine riskMap_visitOfLateLine hspelling hthreshold
      [(.orange, 1)] "Vault"⟩

/-- **A risk need not reach the gate.** A session at an engine that answers from an archive may be settled,
    with a risk that reaches a threshold, and the gate that is set to this threshold finds nothing. -/
theorem not_always_threshold_violated :
    ¬ ∀ (archive : Archive) (config : Config) (moves : List Move) (risks : Entries Int LineRisk)
      (line : Int) (risk : LineRisk) (threshold : RiskLevel) (contractName : String),
      (∀ m ∈ moves, m.HonestTo archive.oracle) →
      ((fresh config).run moves).calls = [] →
      ((fresh config).run moves).session.fetches = [] →
      ((fresh config).run moves).session.riskMap.1 = .ok risks →
      risks.find? line = some risk →
      threshold ∈ RiskLevel.gates →
      risk.level.rank ≤ threshold.rank →
      ((fresh config).run moves).session.violations contractName
        { threshold := some threshold.name } ≠ .ok [] := by
  intro h
  -- A red risk on line 9 of a source that has one line.
  refine h archiveOfLateLine {} visitOfLateLine [(9, riskOfLateLine)] 9 riskOfLateLine .red "Vault" ?_
    (by decide +kernel) (by decide +kernel) riskMap_visitOfLateLine rfl (by decide) (by decide) ?_
  · simp [visitOfLateLine, Move.HonestTo, Move.Tells]
  · refine Except.toOption_eq_some.mp ?_
    decide +kernel

end World

end RangeAudit
