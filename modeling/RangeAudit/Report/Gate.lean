import RangeAudit.Report.Document
import RangeAudit.Text.LowerCase

namespace RangeAudit

/-!
# Gates

A gate fails a report whose risks are too high: if the most severe level reaches a threshold, or if a
level has at least as many lines as a limit allows.

* `Gate.limitsOf` : the limits in specifications of the form `<level>=<count>`;
* `Gate.violations` : what a profile violates;
* `Gate.evaluation` : the outcome in Markdown, `Gate.document` as a document.
-/

open Wire (Value)

/-- Why a specification of a limit is refused. -/
inductive LimitError where
  /-- There is no equals sign. -/
  | notAPair (spec : String)
  /-- There is no such level, or none that can be limited. -/
  | unknownLevel (name : String)
  /-- The count is no integer. -/
  | badCount (text : String)
  /-- The count is less than one. -/
  | countTooSmall (level : RiskLevel)
  deriving DecidableEq, Inhabited

/-- The wording of a refusal. -/
def LimitError.message : LimitError → String
  | notAPair spec =>
    s!"Invalid --fail-on-level-count value '{spec}'. Expected format '<level>=<count>'."
  | unknownLevel name =>
    s!"Invalid level '{name}' in --fail-on-level-count. Allowed: " ++
      ", ".intercalate ((RiskLevel.gates.map RiskLevel.name).mergeSort fun a b => !(b < a)) ++ "."
  | badCount text => s!"Invalid count threshold '{text}' in --fail-on-level-count."
  | countTooSmall level => s!"Count threshold for level '{level.name}' must be >= 1."

/-- A gate: a threshold in the spelling in which it was given, and a limit for the number of lines of
    some levels. -/
structure Gate where
  threshold : Option String := none
  limits : Entries RiskLevel Int := []
  deriving DecidableEq, Inhabited

/-- What a gate looks at: the name of the most severe level, and the number of lines by level name. A
    number that cannot be read is a fault if it is looked at. -/
structure GateInput where
  overall : String := "none"
  lineCounts : Entries String (Except Fault Int) := []
  deriving Inhabited

/-- What a gate looks at in a profile. -/
def RiskProfile.gateInput (p : RiskProfile) : GateInput where
  overall := p.overall.name
  lineCounts := p.lineCounts.map fun entry => (entry.1.name, .ok (entry.2 : Int))

/-- What a report violates. -/
inductive Violation where
  | threshold (overall : String) (level : RiskLevel)
  | limit (level : RiskLevel) (count : Int) (bound : Int)
  deriving DecidableEq, Inhabited

/-- The wording of a violation. -/
def Violation.message : Violation → String
  | threshold overall level => s!"Max level gate failed: {overall} >= threshold {level.name}."
  | limit level count bound =>
    s!"Level count gate failed for '{level.name}': {Numeral.render count} line(s) >= threshold " ++
      Numeral.render bound ++ "."

namespace Gate

/-- The limit in a specification. Blanks and case do not matter in the level. -/
def limitOf (spec : String) : Except LimitError (RiskLevel × Int) :=
  match Text.cutFirst? '=' spec with
  | none => .error (.notAPair spec)
  | some (levelText, countText) =>
    let name := Text.toLower (Text.trim levelText)
    match RiskLevel.gates.find? fun level => level.name == name with
    | none => .error (.unknownLevel name)
    | some level =>
      match Numeral.parse? countText with
      | none => .error (.badCount countText)
      | some n => if n < 1 then .error (.countTooSmall level) else .ok (level, n)

/-- The limits in a list of specifications; of those for one level the last counts. -/
def limitsOf (specs : List String) : Except LimitError (Entries RiskLevel Int) :=
  (specs.mapM limitOf).map Entries.ofList

/-- The level of the threshold. Case does not matter. -/
def thresholdLevel (spelling : String) : Except Fault RiskLevel :=
  let name := Text.toLower spelling
  match RiskLevel.ofName? name with
  | some level => .ok level
  | none => .error (.unknownThreshold name)

/-- Does the most severe level reach a threshold? An unknown level reaches none. -/
def reaches (overall : String) (threshold : RiskLevel) : Bool :=
  (RiskLevel.ofName? overall).any fun level => level.rank ≤ threshold.rank

/-- The violation of the threshold, if there is one. -/
def thresholdViolation (threshold : Option String) (input : GateInput) :
    Except Fault (List Violation) :=
  match threshold with
  | none => .ok []
  | some spelling => (thresholdLevel spelling).map fun level =>
      if reaches input.overall level then [.threshold input.overall level] else []

/-- The violation of one limit, if it is reached. A level without a number has no lines. -/
def limitViolation? (input : GateInput) (limit : RiskLevel × Int) : Except Fault (Option Violation) :=
  ((input.lineCounts.find? limit.1.name).getD (.ok 0)).map fun count =>
    if limit.2 ≤ count then some (.limit limit.1 count limit.2) else none

/-- The limits that are reached, in the alphabetical order of their levels. -/
def limitViolations (limits : Entries RiskLevel Int) (input : GateInput) : Except Fault (List Violation) :=
  ((limits.mergeSort fun a b => !(b.1.name < a.1.name)).mapM (limitViolation? input)).map
    fun found => found.filterMap id

/-- What is violated. -/
def violations (g : Gate) (input : GateInput) : Except Fault (List Violation) := do
  let severe ← thresholdViolation g.threshold input
  let many ← limitViolations g.limits input
  return severe ++ many

/-- The limits in one text. -/
def limitsText (limits : Entries RiskLevel Int) : String :=
  "\x7b" ++ ", ".intercalate (limits.map fun entry =>
    Text.quoted entry.1.name ++ ": " ++ Numeral.render entry.2) ++ "\x7d"

/-- The policies that are set, an item each. -/
def policyItems (g : Gate) : List String :=
  (g.threshold.map fun spelling => "- `fail_on_level`: " ++ spelling).toList
  ++ if g.limits.isEmpty then [] else ["- `fail_on_level_count`: " ++ limitsText g.limits]

/-- The outcome in Markdown. -/
def evaluation (g : Gate) (found : List Violation) : String :=
  let policies := g.policyItems
  "\n".intercalate <|
    ["## Gate Evaluation", "", "- **Passed:** " ++ if found.isEmpty then "Yes" else "No"]
    ++ (if policies.isEmpty then [] else ["", "### Active Policies", ""] ++ policies)
    ++ ["", "### Violations", ""]
    ++ (if found.isEmpty then ["- none"] else found.map fun v => "- " ++ v.message)

/-- The outcome as a document. -/
def document (g : Gate) (found : List Violation) : Value :=
  .obj [("passed", .bool found.isEmpty),
    ("violations", textList (found.map Violation.message)),
    ("policies", .obj [("fail_on_level", optionalText g.threshold),
      ("fail_on_level_count", .obj (g.limits.map fun entry => (entry.1.name, .int entry.2)))])]

end Gate

end RangeAudit
