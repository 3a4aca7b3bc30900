import RangeAudit.Proofs.Risk.Placement

namespace RangeAudit

/-!
# The risk of a line

What is known about a line comes from three kinds of signals: the findings that are placed on it, a call that
leaves the contract, and an assertion.  The level of the line is that of its most severe signal, and the
reasons say what was found; an assertion counts only where nothing else was found.

* `LineRisk.SumsUp` — the risk of a line, said from its signals;
* `LineRisk.level_ofChecks`, `LineRisk.ofSignals?` — findings alone, and all signals together;
* `find?_gatheredRisks`, `find?_lineRisks` — what the passes leave on a line;
* `lineRisks_sumUp` — the risks are those of the lines with signals, by ascending line.
-/

/-- The kinds of findings that break arithmetic. -/
def breakingKinds : List String :=
  ["Overflow", "Underflow", "DivByZero", "UncheckedReturn"]

/-- The risk sums up what was found on a line: its level is that of the most severe signal, and its
    reasons are the findings in order and the call, or the assertion if there is nothing else. -/
structure LineRisk.SumsUp (risk : LineRisk) (checks : List ArithCheck) (call : Option String)
    (asserted : Prop) : Prop where
  red_iff : risk.level = .red ↔ ∃ c ∈ checks, c.check ∈ breakingKinds
  orange_iff : risk.level = .orange ↔ checks ≠ [] ∧ ∀ c ∈ checks, c.check ∉ breakingKinds
  blue_iff : risk.level = .blue ↔ checks = [] ∧ call ≠ none
  green_iff : risk.level = .green ↔ checks = [] ∧ call = none ∧ asserted
  level_ne_clear : risk.level ≠ .clear
  descriptions_eq : risk.descriptions =
    if risk.level = .green then ["Domain narrowing point"]
    else (checks.map fun c => c.check ++ ": " ++ c.bound) ++ (call.map ("External call: " ++ ·)).toList

/-! ### Levels -/

namespace RiskLevel

/-- Nothing is more severe than red. -/
@[simp] theorem raiseTo_red (current : RiskLevel) : current.raiseTo .red = .red := by
  cases current <;> rfl

end RiskLevel

/-- A finding of a kind that breaks the calculation is red, any other orange. -/
theorem checkLevel_eq (check : String) :
    checkLevel check = if check ∈ breakingKinds then .red else .orange := by
  have hcontains : breakingKinds.contains check = true ↔ check ∈ breakingKinds := List.contains_iff_mem
  by_cases h : check ∈ breakingKinds
  · rw [if_pos h]
    exact if_pos (hcontains.mpr h)
  · rw [if_neg h]
    exact if_neg fun hmem => h (hcontains.mp hmem)

namespace LineRisk

/-- A further finding adds its reason, and raises the level if it is more severe. -/
theorem ofChecks_concat (checks : List ArithCheck) (c : ArithCheck) :
    ofChecks (checks ++ [c]) = ((ofChecks checks).describe c.description).raise (checkLevel c.check) := by
  rw [ofChecks, List.foldl_append]
  rfl

/-- The reasons are those of the findings, in order. -/
theorem descriptions_ofChecks (checks : List ArithCheck) :
    (ofChecks checks).descriptions = checks.map ArithCheck.description := by
  induction checks using List.reverseRecOn with
  | nil => rfl
  | append_singleton checks c ih =>
    rw [ofChecks_concat, List.map_append]
    show (ofChecks checks).descriptions ++ [c.description] =
      checks.map ArithCheck.description ++ [c.description]
    rw [ih]

/-- Findings alone make a line red or orange. -/
theorem level_ofChecks (checks : List ArithCheck) :
    (ofChecks checks).level =
      if checks = [] then .clear
      else if ∃ c ∈ checks, c.check ∈ breakingKinds then .red else .orange := by
  induction checks using List.reverseRecOn with
  | nil => rfl
  | append_singleton checks c ih =>
    have hlevel : (ofChecks (checks ++ [c])).level = (ofChecks checks).level.raiseTo (checkLevel c.check) := by
      rw [ofChecks_concat]
      rfl
    have hne : checks ++ [c] ≠ [] := by simp
    rw [hlevel, ih, checkLevel_eq, if_neg hne]
    by_cases hc : c.check ∈ breakingKinds
    · have hsome : ∃ d ∈ checks ++ [c], d.check ∈ breakingKinds := ⟨c, by simp, hc⟩
      rw [if_pos hc, if_pos hsome, RiskLevel.raiseTo_red]
    -- A finding that breaks nothing keeps a red line red, and makes any other line orange.
    · have hsame : (∃ d ∈ checks ++ [c], d.check ∈ breakingKinds) ↔ ∃ d ∈ checks, d.check ∈ breakingKinds := by
        simp [or_and_right, exists_or, hc]
      simp only [if_neg hc, hsame]
      by_cases hnil : checks = []
      · subst hnil
        rfl
      · rw [if_neg hnil]
        split <;> rfl

/-! ### All signals of a line -/

/-- A line with an assertion and nothing else. -/
def narrowingPoint : LineRisk where
  level := .green
  descriptions := ["Domain narrowing point"]

/-- What the signals on a line make of it, if there are any. -/
def ofSignals? (checks : List ArithCheck) (call : Option String) (asserted : Bool) : Option LineRisk :=
  match call with
  | some text => some (((ofChecks checks).raise .blue).describe ("External call: " ++ text))
  | none =>
    if checks = [] then
      if asserted then some narrowingPoint else none
    else some (ofChecks checks)

/-- A line has a risk if there is a signal on it. -/
theorem isSome_ofSignals?_iff (checks : List ArithCheck) (call : Option String) (asserted : Bool) :
    (ofSignals? checks call asserted).isSome ↔ checks ≠ [] ∨ call ≠ none ∨ asserted = true := by
  cases call with
  | some text => simp [ofSignals?]
  | none => by_cases hchecks : checks = [] <;> cases asserted <;> simp [ofSignals?, hchecks]

/-- The findings decide the level if there are any, then the call, then the assertion. -/
theorem level_of_ofSignals? {checks : List ArithCheck} {call : Option String} {asserted : Bool}
    {risk : LineRisk} (h : ofSignals? checks call asserted = some risk) :
    risk.level =
      if checks = [] then (if call = none then .green else .blue)
      else if ∃ c ∈ checks, c.check ∈ breakingKinds then .red else .orange := by
  cases call with
  | some text =>
    cases h
    -- A call raises the level to blue at least, which only shows where no check is found.
    show (ofChecks checks).level.raiseTo .blue = _
    rw [level_ofChecks]
    split
    · rfl
    · split <;> rfl
  | none =>
    rw [ofSignals?] at h
    -- With no call, a line without checks has a risk only if it asserts.
    by_cases hnil : checks = []
    · rw [if_pos hnil] at h ⊢
      cases asserted with
      | true =>
        cases h
        rfl
      | false => cases h
    · rw [if_neg hnil] at h ⊢
      cases h
      rw [level_ofChecks, if_neg hnil]

/-- The reasons are those of the findings and then the call; an assertion is a reason only if there is no
    other. -/
theorem descriptions_of_ofSignals? {checks : List ArithCheck} {call : Option String} {asserted : Bool}
    {risk : LineRisk} (h : ofSignals? checks call asserted = some risk) :
    risk.descriptions =
      if checks = [] ∧ call = none then ["Domain narrowing point"]
      else checks.map ArithCheck.description ++ (call.map ("External call: " ++ ·)).toList := by
  cases call with
  | some text =>
    cases h
    show (ofChecks checks).descriptions ++ ["External call: " ++ text] = _
    rw [descriptions_ofChecks, if_neg (by simp)]
    rfl
  | none =>
    rw [ofSignals?] at h
    -- With no call, a line without checks has a risk only if it asserts.
    by_cases hnil : checks = []
    · rw [if_pos hnil] at h
      rw [if_pos ⟨hnil, rfl⟩]
      cases asserted with
      | true =>
        cases h
        rfl
      | false => cases h
    · rw [if_neg hnil] at h
      cases h
      simp [hnil, descriptions_ofChecks]

/-- **The signals of a line.** Where there are signals, the risk sums them up. -/
theorem sumsUp_of_ofSignals? {checks : List ArithCheck} {call : Option String} {asserted : Bool}
    {risk : LineRisk} (h : ofSignals? checks call asserted = some risk) :
    risk.SumsUp checks call (asserted = true) := by
  have hlevel := level_of_ofSignals? h
  have hdescriptions := descriptions_of_ofSignals? h
  have hsignals : checks ≠ [] ∨ call ≠ none ∨ asserted = true := by
    rw [← isSome_ofSignals?_iff, h]
    rfl
  by_cases hnil : checks = []
  · subst hnil
    by_cases hcall : call = none
    · -- An assertion and nothing else.
      have hasserted : asserted = true := by simpa [hcall] using hsignals
      rw [if_pos rfl, if_pos hcall] at hlevel
      constructor <;> simp [hlevel, hdescriptions, hcall, hasserted]
    · rw [if_pos rfl, if_neg hcall] at hlevel
      constructor <;> simp [hlevel, hdescriptions, hcall]
  · rw [if_neg hnil] at hlevel
    have htext : risk.descriptions =
        checks.map ArithCheck.description ++ (call.map ("External call: " ++ ·)).toList := by
      rw [hdescriptions, if_neg fun hboth => hnil hboth.1]
    by_cases hred : ∃ c ∈ checks, c.check ∈ breakingKinds
    · rw [if_pos hred] at hlevel
      have hnot : ¬ ∀ c ∈ checks, c.check ∉ breakingKinds := by simpa using hred
      constructor <;> simp [hlevel, htext, hnil, hred, hnot, ArithCheck.description]
    · rw [if_neg hred] at hlevel
      have hall : ∀ c ∈ checks, c.check ∉ breakingKinds := by simpa using hred
      exact {
        red_iff := by simp [hlevel, hred]
        orange_iff := by rw [hlevel]; exact iff_of_true rfl ⟨hnil, hall⟩
        blue_iff := by simp [hlevel, hnil]
        green_iff := by simp [hlevel, hnil]
        level_ne_clear := by simp [hlevel]
        descriptions_eq := by simp [hlevel, htext, ArithCheck.description] }

end LineRisk

/-! ### Tables by line -/

/-- The lines with a call are listed in ascending order. -/
theorem pairwise_keys_matchingLines (patterns : List CallPattern) (source : String) :
    (Entries.keys (CallPattern.matchingLines patterns source)).Pairwise (· < ·) := by
  have hnumbered := (Text.pairwise_numberedLines source).sublist
    (List.filter_sublist (p := fun line => patterns.any fun p => p.occursIn line.2))
  rw [Entries.keys, CallPattern.matchingLines, List.map_map]
  exact List.pairwise_map.mpr (hnumbered.imp Int.ofNat_lt.mpr)

/-- A line is listed once. -/
theorem nodup_keys_matchingLines (patterns : List CallPattern) (source : String) :
    (Entries.keys (CallPattern.matchingLines patterns source)).Nodup :=
  (pairwise_keys_matchingLines patterns source).imp Int.ne_of_lt

/-- Sorting by line changes the order only. -/
theorem find?_byLine {entries : Entries Int ν} (h : entries.keys.Nodup) (line : Int) :
    (byLine entries).find? line = entries.find? line :=
  (Entries.find?_eq_of_perm (List.mergeSort_perm _ _).symm h line).symm

/-- Sorted by line, and each line once. -/
theorem pairwise_keys_byLine {entries : Entries Int ν} (h : entries.keys.Nodup) :
    (byLine entries).keys.Pairwise (· < ·) := by
  have hnodup : (byLine entries).keys.Nodup :=
    ((List.mergeSort_perm entries _).map Prod.fst).nodup_iff.mpr h
  have hsorted : (byLine entries).Pairwise fun a b => decide (a.1 ≤ b.1) = true := by
    refine List.pairwise_mergeSort (fun a b c hab hbc => ?_) (fun a b => ?_) entries
    · simp only [decide_eq_true_eq] at hab hbc ⊢
      omega
    · simp only [Bool.or_eq_true, decide_eq_true_eq]
      omega
  have hle : (byLine entries).keys.Pairwise (· ≤ ·) :=
    List.pairwise_map.mpr (hsorted.imp of_decide_eq_true)
  -- Sorted and without repetition is strictly sorted.
  refine (hle.and hnodup).imp fun {a b} hboth => ?_
  have hab : a ≤ b := hboth.1
  have hne : a ≠ b := hboth.2
  omega

/-! ### The passes -/

section Passes

variable (paths : List PathTrace) (index : NodeIndex) (config : Config) {source : String}

/-- The risks that the three passes leave, in the order in which their lines came. -/
def gatheredRisks (source : String) : Entries Int LineRisk :=
  (assertionLines source).foldl markAssertion
    ((externalCallLines source).foldl markExternal
      ((placedChecks paths index source config).map fun entry => (entry.1, LineRisk.ofChecks entry.2)))

/-- Where there is a source, the map is what was gathered, sorted by line. -/
theorem lineRisks_eq_byLine (hsource : source ≠ "") :
    lineRisks (some paths) index source config = byLine (gatheredRisks paths index config source) := by
  have hempty : ¬ source.isEmpty = true := fun h => hsource (String.isEmpty_iff.mp h)
  rw [lineRisks, if_neg hempty]
  rfl

/-- Each line is gathered once. -/
theorem nodup_keys_gatheredRisks (hsource : source ≠ "") :
    (gatheredRisks paths index config source).keys.Nodup := by
  have hplaced : (Entries.keys ((placedChecks paths index source config).map fun entry =>
      (entry.1, LineRisk.ofChecks entry.2))).Nodup := by
    rw [Entries.keys, List.map_map]
    exact nodup_keys_placedChecks paths index config hsource
  refine Entries.nodup_keys_foldl (fun h line => ?_) (Entries.nodup_keys_foldl (fun h line => ?_) hplaced _) _
  · exact Entries.nodup_keys_putNew h (line.1, _)
  · exact Entries.nodup_keys_update h _ _ _

/-- The calls raise a line to blue at least, and add a reason to it. -/
theorem find?_foldl_markExternal (source : String) (risks : Entries Int LineRisk) (line : Int) :
    ((externalCallLines source).foldl markExternal risks).find? line =
      ((Entries.find? (externalCallLines source) line).map fun text =>
        (((risks.find? line).getD {}).raise .blue).describe ("External call: " ++ text)).or
          (risks.find? line) :=
  Entries.find?_foldl_update
    (fun (call : Int × String) (risk : LineRisk) =>
      (risk.raise .blue).describe ("External call: " ++ call.2)) {}
    (nodup_keys_matchingLines CallPattern.externalCalls source) risks line

/-- The assertions mark only lines that have no risk yet. -/
theorem find?_foldl_markAssertion (source : String) (risks : Entries Int LineRisk) (line : Int) :
    ((assertionLines source).foldl markAssertion risks).find? line =
      (risks.find? line).or
        ((Entries.find? (assertionLines source) line).map fun _ => LineRisk.narrowingPoint) := by
  have hput : (assertionLines source).foldl markAssertion risks =
      ((assertionLines source).map fun asserted => (asserted.1, LineRisk.narrowingPoint)).foldl
        Entries.putNew risks := by
    rw [List.foldl_map]
    rfl
  rw [hput, Entries.find?_foldl_putNew]
  -- Whatever the texts of the assertions are, the same is put on each of their lines.
  congr 1
  exact Entries.find?_map Function.injective_id (fun _ : String => LineRisk.narrowingPoint)
    (assertionLines source) line

/-- Under a line stands what its signals make of it. -/
theorem find?_gatheredRisks (hsource : source ≠ "") (line : Int) :
    (gatheredRisks paths index config source).find? line =
      LineRisk.ofSignals? (findingsOn paths index config source line)
        (Entries.find? (externalCallLines source) line) (Entries.has (assertionLines source) line) := by
  have hfound : Entries.find? ((placedChecks paths index source config).map fun entry =>
      (entry.1, LineRisk.ofChecks entry.2)) line =
        ((placedChecks paths index source config).find? line).map LineRisk.ofChecks :=
    Entries.find?_map Function.injective_id LineRisk.ofChecks _ line
  rw [gatheredRisks, find?_foldl_markAssertion, find?_foldl_markExternal, hfound,
    find?_placedChecks paths index config hsource, Entries.has]
  -- A line without findings has no entry from the checks, and the later passes create theirs.
  by_cases hnil : findingsOn paths index config source line = []
  · rw [if_pos hnil]
    cases Entries.find? (externalCallLines source) line with
    | some text => simp [hnil, LineRisk.ofSignals?, LineRisk.ofChecks]
    | none => cases Entries.find? (assertionLines source) line <;> simp [hnil, LineRisk.ofSignals?]
  · rw [if_neg hnil]
    cases Entries.find? (externalCallLines source) line <;> simp [hnil, LineRisk.ofSignals?]

/-- **One line.** What a line has is determined by the signals on it. -/
theorem find?_lineRisks (hsource : source ≠ "") (line : Int) :
    (lineRisks (some paths) index source config).find? line =
      LineRisk.ofSignals? (findingsOn paths index config source line)
        (Entries.find? (externalCallLines source) line) (Entries.has (assertionLines source) line) := by
  rw [lineRisks_eq_byLine paths index config hsource,
    find?_byLine (nodup_keys_gatheredRisks paths index config hsource),
    find?_gatheredRisks paths index config hsource]

/-- The lines of the map are in order. -/
theorem pairwise_keys_lineRisks (hsource : source ≠ "") :
    (lineRisks (some paths) index source config).keys.Pairwise (· < ·) := by
  rw [lineRisks_eq_byLine paths index config hsource]
  exact pairwise_keys_byLine (nodup_keys_gatheredRisks paths index config hsource)

/-- The lines with risks are those with signals. -/
theorem mem_keys_lineRisks_iff (hsource : source ≠ "") (line : Int) :
    line ∈ (lineRisks (some paths) index source config).keys ↔
      findingsOn paths index config source line ≠ [] ∨ line ∈ Entries.keys (externalCallLines source) ∨
        line ∈ Entries.keys (assertionLines source) := by
  have hcalls : Entries.find? (externalCallLines source) line ≠ none ↔
      line ∈ Entries.keys (externalCallLines source) := by
    rw [Option.ne_none_iff_isSome, Entries.isSome_find?_iff]
  have hasserted : Entries.has (assertionLines source) line = true ↔
      line ∈ Entries.keys (assertionLines source) := Entries.isSome_find?_iff ..
  rw [← Entries.isSome_find?_iff, find?_lineRisks paths index config hsource,
    LineRisk.isSome_ofSignals?_iff, hcalls, hasserted]

/-- Each risk sums up the signals of its line. -/
theorem sumsUp_of_mem_lineRisks (hsource : source ≠ "") {line : Int} {risk : LineRisk}
    (h : (line, risk) ∈ lineRisks (some paths) index source config) :
    risk.SumsUp (findingsOn paths index config source line) (Entries.find? (externalCallLines source) line)
      (line ∈ Entries.keys (assertionLines source)) := by
  have hkeys : (lineRisks (some paths) index source config).keys.Nodup :=
    (pairwise_keys_lineRisks paths index config hsource).imp Int.ne_of_lt
  have hrisk := (Entries.find?_eq_some_iff hkeys line risk).mpr h
  rw [find?_lineRisks paths index config hsource] at hrisk
  rw [← Entries.isSome_find?_iff]
  exact LineRisk.sumsUp_of_ofSignals? hrisk

/-- **The risk of a line.** For a source that is not empty: the lines with risks ascend; they are those with a
    finding, a call or an assertion; and each risk sums up what was found on its line. -/
theorem lineRisks_sumUp (hsource : source ≠ "") :
    let placed := placedChecks paths index source config
    let calls : Entries Int String := externalCallLines source
    let asserted : Entries Int String := assertionLines source
    let risks := lineRisks (some paths) index source config
    risks.keys.Pairwise (· < ·) ∧
    (∀ line, line ∈ risks.keys ↔
      (∃ found, (line, found) ∈ placed ∧ found ≠ []) ∨ line ∈ calls.keys ∨ line ∈ asserted.keys) ∧
    ∀ line risk, (line, risk) ∈ risks →
      risk.SumsUp ((placed.find? line).getD []) (calls.find? line) (line ∈ asserted.keys) := by
  intro placed calls asserted risks
  have hsorted : risks.keys.Pairwise (· < ·) := pairwise_keys_lineRisks paths index config hsource
  refine ⟨hsorted, fun line => ?_, fun line risk hmem => ?_⟩
  · rw [exists_mem_placedChecks_iff paths index config hsource]
    exact mem_keys_lineRisks_iff paths index config hsource line
  · exact sumsUp_of_mem_lineRisks paths index config hsource hmem

end Passes

/-- A path with a finding. -/
def pathsOfTransfer : List PathTrace :=
  [{ index := 0, exit := .returns, feasible := true,
     checks := [{ node := 5, check := "DivisionTruncation", bound := "a / b" }] }]

/-- A source with two calls, of which one shares its line with the finding, and an assertion. -/
def sourceOfTransfer : String :=
  "to.transfer(a / b);\nreturn;\nto.send(1);\nrequire(a > 0);"

/-- The node of the finding is on the first line. -/
def indexOfTransfer : NodeIndex :=
  NodeIndex.ofPlaces [⟨1, 12, 5⟩]

/-- What is known about the first line. -/
def riskOfTransfer : LineRisk where
  level := .orange
  descriptions := ["DivisionTruncation: a / b", "External call: to.transfer(a / b);"]

theorem sourceOfTransfer_ne : sourceOfTransfer ≠ "" := by decide

/-- The first line of the source has this risk. -/
theorem mem_lineRisks_pathsOfTransfer :
    (1, riskOfTransfer) ∈ lineRisks (some pathsOfTransfer) indexOfTransfer sourceOfTransfer {} := by
  refine Entries.mem_of_find? ?_
  rw [find?_lineRisks pathsOfTransfer indexOfTransfer {} sourceOfTransfer_ne]
  decide +kernel

/-- It sums up the finding and the call on the line. -/
theorem lineRisks_sumUp_of_pathsOfTransfer :
    sourceOfTransfer ≠ "" ∧
      (lineRisks (some pathsOfTransfer) indexOfTransfer sourceOfTransfer {}).keys.Pairwise (· < ·) ∧
      (1, riskOfTransfer) ∈ lineRisks (some pathsOfTransfer) indexOfTransfer sourceOfTransfer {} ∧
      riskOfTransfer.SumsUp
        (((placedChecks pathsOfTransfer indexOfTransfer sourceOfTransfer {}).find? 1).getD [])
        (Entries.find? (externalCallLines sourceOfTransfer) 1)
        (1 ∈ Entries.keys (assertionLines sourceOfTransfer)) := by
  have h := lineRisks_sumUp pathsOfTransfer indexOfTransfer {} sourceOfTransfer_ne
  have hmem := mem_lineRisks_pathsOfTransfer
  exact ⟨sourceOfTransfer_ne, h.1, hmem, h.2.2 1 riskOfTransfer hmem⟩

end RangeAudit
