import RangeAudit.Analysis.Scope
import RangeAudit.Console.Usage
import RangeAudit.Console.Workspace
import RangeAudit.Text.Similarity

namespace RangeAudit.Console

/-!
# Parameters

The options and the argument of the commands: how they are spelled, which environment variable stands
in for an option that is not given, and what their values set.
-/

/-- The commands. -/
inductive Command where
  | contracts
  | paths
  | annotate
  | inspect
  | report
  deriving DecidableEq, Inhabited

/-- The name of a command. -/
def Command.name : Command → String
  | contracts => "contracts"
  | paths => "paths"
  | annotate => "annotate"
  | inspect => "inspect"
  | report => "report"

/-- Every command. -/
def Command.all : List Command := [contracts, paths, annotate, inspect, report]

/-- The command of a name. -/
def Command.ofName? (name : String) : Option Command :=
  Command.all.find? fun c => c.name == name

/-- What can be set on a command line. -/
inductive Parameter where
  | help
  | version
  | logLevel
  | logJson
  | config
  | dumpFile
  | function
  | filter
  | includeInfeasible
  | path
  | step
  | hideBadges
  | output
  | format
  | threshold
  | limit
  deriving DecidableEq, Inhabited

/-- The forms of a report. -/
inductive ReportFormat where
  | json
  | markdown
  deriving DecidableEq, Inhabited

/-- The name of a form. -/
def ReportFormat.name : ReportFormat → String
  | json => "json"
  | markdown => "markdown"

/-- What a command line sets. A parameter that a command does not have keeps its initial value. -/
structure Settings where
  help : Bool := false
  version : Bool := false
  configFile : Option String := none
  dumpFile : String := ""
  function : String := ""
  filter : PathFilter := .all
  includeInfeasible : Bool := false
  path : Option Int := none
  step : Option Int := none
  hideBadges : Bool := false
  output : Option String := none
  format : ReportFormat := .markdown
  threshold : Option RiskLevel := none
  limits : List String := []
  deriving DecidableEq, Inhabited

namespace Parameter

/-- The parameters before the command, in the order in which they are checked. -/
def general : List Parameter := [version, logLevel, logJson, config, help]

/-- The parameters of a command, in the order in which they are declared. -/
def ofCommand : Command → List Parameter
  | .contracts => [dumpFile, help]
  | .paths => [dumpFile, function, filter, includeInfeasible, help]
  | .annotate => [dumpFile, function, path, step, hideBadges, help]
  | .inspect => [dumpFile, function, path, step, help]
  | .report => [dumpFile, function, path, output, format, threshold, limit, help]

/-- How a parameter is spelled. The argument has only a name. -/
def spellings : Parameter → List String
  | help => ["--help"]
  | version => ["--version"]
  | logLevel => ["--log-level"]
  | logJson => ["--log-json"]
  | config => ["--config"]
  | dumpFile => ["DUMP_FILE"]
  | function => ["--function", "-f"]
  | filter => ["--filter"]
  | includeInfeasible => ["--include-infeasible"]
  | path => ["--path"]
  | step => ["--step"]
  | hideBadges => ["--no-annotations"]
  | output => ["--output", "-o"]
  | format => ["--format"]
  | threshold => ["--fail-on-level"]
  | limit => ["--fail-on-level-count"]

/-- The last part of the name of the environment variable that stands in for an option. -/
def variableName? : Parameter → Option String
  | help => some "_CLICK_DEFAULT_HELP"
  | version => some "VERSION"
  | logLevel => some "LOG_LEVEL"
  | logJson => some "LOG_JSON"
  | config => some "CONFIG_FILE"
  | dumpFile => none
  | function => some "FUNCTION_SPEC"
  | filter => some "PATH_FILTER"
  | includeInfeasible => some "INCLUDE_INFEASIBLE"
  | path => some "PATH_INDEX"
  | step => some "STEP_INDEX"
  | hideBadges => some "NO_ANNOTATIONS"
  | output => some "OUTPUT"
  | format => some "FMT"
  | threshold => some "FAIL_ON_LEVEL"
  | limit => some "LEVEL_COUNT_SPECS"

/-- Is the parameter an option that is given or not, without a value? -/
def isFlag : Parameter → Bool
  | help | version | logJson | includeInfeasible | hideBadges => true
  | _ => false

/-- Is the parameter a question, which is answered before anything else is checked? -/
def isQuestion : Parameter → Bool
  | help | version => true
  | _ => false

/-- Must the parameter be set? -/
def isRequired (command : Option Command) : Parameter → Bool
  | dumpFile | function => true
  | path => command == some .inspect
  | _ => false

/-! ### Values -/

/-- A value that must be one of some choices, with or without regard to case. -/
def choose (p : Parameter) (choices : List α) (name : α → String) (anyCase : Bool) (value : String) :
    Except UsageError α :=
  let key (text : String) : String := if anyCase then Text.toLower text else text
  match choices.find? fun choice => key (name choice) == key value with
  | some choice => .ok choice
  | none =>
    .error (.badValue p.spellings (.notAChoice value (choices.map fun choice => key (name choice))))

/-- A value that must be an integer. -/
def integer (p : Parameter) (value : String) : Except UsageError Int :=
  match Numeral.strict? value with
  | some n => .ok n
  | none => .error (.badValue p.spellings (.notAnInteger value))

/-- The words for yes and for no, in the values of variables that stand in for flags. -/
def boolean (p : Parameter) (value : String) : Except UsageError Bool :=
  let word := Text.toLower (Text.trim value)
  if ["1", "true", "t", "yes", "y", "on"].contains word then .ok true
  else if ["", "0", "false", "f", "no", "n", "off"].contains word then .ok false
  else .error (.badValue p.spellings (.notABoolean value))

/-- A value that must be a path. -/
def pathOf (value : String) : Except UsageError String :=
  match Text.pathBytes value with
  | .ok _ => .ok value
  | .error e => .error (.badPath e)

/-- A value that must be the path of a file. -/
def existing (p : Parameter) (w : Workspace) (value : String) : Except UsageError String := do
  let value ← pathOf value
  match w.read? value with
  | some _ => return value
  | none =>
    let reason := if w.showsFolder value then ValueError.isFolder value else .noFile value
    throw (.badValue p.spellings reason)

/-- The words for the detail of the diagnostics. -/
def logLevels : List String := ["DEBUG", "INFO", "WARNING", "ERROR"]

/-- Set a flag. -/
def raise (s : Settings) (on : Bool) : Parameter → Settings
  | help => { s with help := on }
  | version => { s with version := on }
  | includeInfeasible => { s with includeInfeasible := on }
  | hideBadges => { s with hideBadges := on }
  | _ => s

/-- Set a parameter to a value. The diagnostics are not part of the answers, so their parameters are
    checked only. -/
def assign (w : Workspace) (s : Settings) (value : String) : Parameter → Except UsageError Settings
  | logLevel => (choose logLevel logLevels id true value).map fun _ => s
  | config => (existing config w value).map fun path => { s with configFile := some path }
  | dumpFile => (existing dumpFile w value).map fun path => { s with dumpFile := path }
  | function => .ok { s with function := value }
  | filter => (choose filter PathFilter.choices PathFilter.name false value).map
      fun f => { s with filter := f }
  | path => (integer path value).map fun k => { s with path := some k }
  | step => (integer step value).map fun k => { s with step := some k }
  | output => (pathOf value).map fun path => { s with output := some path }
  | format => (choose format [ReportFormat.json, .markdown] ReportFormat.name false value).map
      fun f => { s with format := f }
  | threshold => (choose threshold RiskLevel.gates RiskLevel.name true value).map
      fun level => { s with threshold := some level }
  | limit => .ok { s with limits := s.limits ++ [value] }
  | p => (boolean p value).map fun on => raise s on p

end Parameter

end RangeAudit.Console
