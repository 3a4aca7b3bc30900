import RangeAudit.Config
import RangeAudit.Risk.Level
import RangeAudit.Risk.Pattern
import RangeAudit.Source.NodeIndex

namespace RangeAudit

/-!
# Risks by line

The findings of the feasible paths are placed on source lines, by the node of the operation or else by
its text, and merged with the external calls and assertions of the source.

* `feasibleChecks` : the findings of feasible paths, each once;
* `placedChecks` : the findings on each line;
* `lineRisks` : the level and the reasons of each line, by ascending line;
* `riskSummary` : how often each kind of finding occurs.
-/

/-- The elements with the first of each key, in order. -/
def distinctBy [DecidableEq κ] (key : α → κ) : List α → List α
  | [] => []
  | x :: rest => x :: (distinctBy key rest).filter fun y => key y ≠ key x

/-- Entries in ascending order of their line. -/
def byLine (entries : Entries Int ν) : Entries Int ν :=
  entries.mergeSort fun a b => a.1 ≤ b.1

/-- The findings of all feasible paths, path by path. -/
def occurringChecks (paths : List PathTrace) : List ArithCheck :=
  (paths.filter PathTrace.feasible).flatMap PathTrace.checks

/-- The findings of feasible paths; of those with the same key the first. -/
def feasibleChecks (paths : List PathTrace) : List ArithCheck :=
  distinctBy ArithCheck.key (occurringChecks paths)

/-- The first line that contains the trimmed text of the operation, if the text is long enough to be
    searched for. -/
def fallbackLine? (c : ArithCheck) (source : String) (config : Config) : Option Int :=
  let text := Text.trim (c.text.getD "")
  if (Text.size text : Int) < config.minFallbackLength then none
  else
    ((Text.numberedLines source).find? fun line => Text.contains line.2 text).map
      fun line => (line.1 : Int)

/-- Add a finding to a line. -/
def placeMapped (index : NodeIndex) (placed : Entries Int (List ArithCheck)) (c : ArithCheck) :
    Entries Int (List ArithCheck) :=
  match index.lineOf? (some c.node) with
  | some line => placed.update line [] (· ++ [c])
  | none => placed

/-- Add a finding without a line of its own to the line found by its text, unless that line has it. -/
def placeByText (source : String) (config : Config) (placed : Entries Int (List ArithCheck))
    (c : ArithCheck) : Entries Int (List ArithCheck) :=
  match fallbackLine? c source config with
  | some line =>
    placed.update line [] fun found =>
      if found.any fun other => other.key == c.key then found else found ++ [c]
  | none => placed

/-- The findings on each line: first those whose node is on a line, then those whose text is. -/
def placedChecks (paths : List PathTrace) (index : NodeIndex) (source : String) (config : Config) :
    Entries Int (List ArithCheck) :=
  if source.isEmpty then []
  else
    let checks := feasibleChecks paths
    let unmapped := checks.filter fun c => (index.lineOf? (some c.node)).isNone
    unmapped.foldl (placeByText source config) (checks.foldl (placeMapped index) [])

/-- The text of a finding. -/
def ArithCheck.description (c : ArithCheck) : String :=
  c.check ++ ": " ++ c.bound

/-- A line with findings. -/
def LineRisk.ofChecks (checks : List ArithCheck) : LineRisk :=
  checks.foldl (fun risk c => (risk.describe c.description).raise (checkLevel c.check)) {}

/-- Add a call that leaves the contract. -/
def markExternal (risks : Entries Int LineRisk) (line : Int × String) : Entries Int LineRisk :=
  risks.update line.1 {} fun risk => (risk.raise .blue).describe ("External call: " ++ line.2)

/-- Add an assertion, on a line where nothing else was found. -/
def markAssertion (risks : Entries Int LineRisk) (line : Int × String) : Entries Int LineRisk :=
  if risks.has line.1 then risks
  else risks.put line.1 { level := .green, descriptions := ["Domain narrowing point"] }

/-- The risk of each line, by ascending line. Without paths nothing is known. -/
def lineRisks (paths : Option (List PathTrace)) (index : NodeIndex) (source : String)
    (config : Config) : Entries Int LineRisk :=
  match paths with
  | none => []
  | some paths =>
    if source.isEmpty then []
    else
      let found := (placedChecks paths index source config).map fun entry =>
        (entry.1, LineRisk.ofChecks entry.2)
      let called := (externalCallLines source).foldl markExternal found
      byLine ((assertionLines source).foldl markAssertion called)

/-- How often each kind of finding occurs on feasible paths, every occurrence counted. -/
def riskSummary (paths : List PathTrace) : Entries String Nat :=
  (occurringChecks paths).foldl (fun counts c => counts.update c.check 0 (· + 1)) []

end RangeAudit
