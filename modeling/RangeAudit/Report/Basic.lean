import RangeAudit.Session.Views

namespace RangeAudit

/-!
# Reports

Everything that a report says about one function, taken from a session at one moment, and the risk
profile that sums it up.

* `Report.ofSession` : the report of the selected function;
* `Report.profile` : the most severe level, the number of lines of each level, a score, and the kinds
  of findings with their counts.
-/

/-- What a report says about one function. -/
structure Report where
  contractName : String := "unknown"
  functionName : String
  lines : List MarginLine := []
  paths : List PathTrace := []
  checkCounts : Entries String Nat := []
  pathIndex : Option Int := none
  stepDiffs : List (List VarDiff) := []
  summary : Option FunctionSummary := none
  deriving Inhabited

/-- How often a kind of finding occurs, and its level. -/
structure CheckCount where
  check : String
  count : Nat
  level : RiskLevel
  deriving DecidableEq, Inhabited

/-- The risks of a function in summary. -/
structure RiskProfile where
  overall : RiskLevel
  lineCounts : Entries RiskLevel Nat
  score : Nat
  checks : List CheckCount
  deriving DecidableEq, Inhabited

/-- The number of lines of a level. -/
def RiskProfile.lineCount (p : RiskProfile) (level : RiskLevel) : Nat :=
  (p.lineCounts.find? level).getD 0

namespace Report

/-- The name of the selected function: from the analysis, else its id. -/
def functionNameOf (s : Session) (analysis : Option FunctionAnalysis) : String :=
  match analysis, s.selection.functionId with
  | some a, _ => a.functionName
  | none, some id => Numeral.render id
  | none, none => "None"

/-- The report of the function that is selected in a session. -/
def ofSession (contractName : String) (s : Session) : Except Fault Report × Session :=
  match s.functionAnalysis with
  | .error fault => (.error fault, s)
  | .ok analysis =>
    let (lines, s) := s.marginLines
    (do
      let lines ← lines
      let paths ← s.paths
      let checkCounts ← s.riskSummary
      let stepDiffs ← if s.selection.pathIndex.isSome then s.stepDiffs else .ok []
      return {
        contractName := contractName
        functionName := functionNameOf s analysis
        lines := lines
        paths := paths.getD []
        checkCounts := checkCounts
        pathIndex := s.selection.pathIndex
        stepDiffs := stepDiffs
        summary := do (← s.analysis?).summary? (← s.selection.functionId) }, s)

/-- The lines that have a risk: the level of each, and its number. -/
def riskyLines (r : Report) : List (RiskLevel × Nat) :=
  r.lines.filterMap fun line => line.risk.map fun risk => (risk.level, line.number)

/-- A line comes before another one if it is more severe, or as severe and not after it. -/
def StandsBefore (a b : RiskLevel × Nat) : Prop :=
  a.1.rank < b.1.rank ∨ a.1.rank = b.1.rank ∧ a.2 ≤ b.2

instance (a b : RiskLevel × Nat) : Decidable (StandsBefore a b) :=
  inferInstanceAs (Decidable (_ ∨ _))

/-- The levels of the lines that have a risk, in the order of severity. -/
def levels (r : Report) : List RiskLevel :=
  (r.riskyLines.mergeSort fun a b => StandsBefore a b).map Prod.fst

/-- The numbers of lines with one line more of a level. Lines without a level are not counted. -/
def countLine (counts : Entries RiskLevel Nat) (level : RiskLevel) : Entries RiskLevel Nat :=
  if level = .clear then counts else counts.update level 0 (· + 1)

/-- The risks in summary. The kinds of findings are in alphabetical order. -/
def profile (r : Report) : RiskProfile where
  overall := r.levels.headD .clear
  lineCounts := r.levels.foldl countLine (RiskLevel.gates.map fun level => (level, 0))
  score := r.levels.foldl (fun score level => score + level.weight) 0
  checks := (r.checkCounts.mergeSort fun a b => Text.inOrder a.1 b.1).map fun entry =>
    { check := entry.1, count := entry.2, level := checkLevel entry.1 }

/-- The lines with anything in their margin. -/
def markedLines (r : Report) : List MarginLine :=
  r.lines.filter fun line => line.risk.isSome || !line.ranges.isEmpty || line.badge.isSome

/-- The steps that change any domain, with their positions. -/
def changedSteps (r : Report) : List (Nat × List VarDiff) :=
  (r.stepDiffs.zipIdx.filter fun step => !step.1.isEmpty).map fun step => (step.2, step.1)

end Report

/-! ### The domains of a summary -/

/-- The parameter ranges in display texts; of those with one position the last counts. -/
def FunctionSummary.paramTexts (s : FunctionSummary) : Entries String String :=
  Entries.ofList (s.paramRanges.map fun param => (Numeral.render param.1, param.2.render))

/-- The written ranges in display texts; of those with one name the last counts. -/
def FunctionSummary.writeTexts (s : FunctionSummary) : Entries String String :=
  Entries.ofList (s.stateWrites.map fun write => (write.varName, write.bound.render))

end RangeAudit
