import RangeAudit.Text.FileName
import RangeAudit.Text.Line
import RangeAudit.Wire.Integer

namespace RangeAudit

/-!
# Faults

A fault is a cause: what was asked for and could not be given. Its kind says how it is treated (a view
of a session absorbs the faults of the data, not the misuse of the session), its message is the text
that a user sees.

* `Fault.kind` : the kind of each cause;
* `Fault.message` : the wording of each cause;
* `Fault.shown` : the wording on the console, where a missing key is quoted.
-/

/-- The documents that are read. -/
inductive DocumentKind where
  | contractList
  | analysis
  | sourceMapping
  | dump
  | config
  deriving DecidableEq, Inhabited

/-- The name of a document within a sentence. -/
def DocumentKind.name : DocumentKind → String
  | contractList => "contract list"
  | analysis => "analysis"
  | sourceMapping => "source mapping"
  | dump => "dump"
  | config => "config"

/-- The name of a document at the start of a sentence. -/
def DocumentKind.title (kind : DocumentKind) : String :=
  Text.capitalize kind.name

/-- How a fault is treated. -/
inductive FaultKind where
  /-- A value that is not acceptable. -/
  | value
  /-- A key that is not there. -/
  | key
  /-- A value of the wrong type. -/
  | type
  /-- A position outside a sequence. -/
  | index
  /-- A member that a value does not have. -/
  | member
  /-- A request that the present state does not allow. -/
  | state
  /-- Any other fault. -/
  | other
  deriving DecidableEq, Inhabited

/-- The views of a session absorb the faults that come from the data they show. -/
def FaultKind.absorbed : FaultKind → Bool
  | value | key | type | index | member => true
  | state | other => false

/-- Why a request fails. -/
inductive Fault where
  /-- A document that is not well formed. -/
  | malformed (document : DocumentKind) (error : Wire.ReadError)
  /-- A text that cannot be written to a file. -/
  | unencodable (error : Text.EncodingError)
  /-- A value that is no document, because it is no text; the word is the name of its type. -/
  | notAText (type : String)
  /-- A document whose outermost value must be an array. -/
  | rootNotArray (document : DocumentKind)
  /-- A document whose outermost value must be an object. -/
  | rootNotObject (document : DocumentKind)
  /-- An element of a path list that is not an object. -/
  | pathNotObject (position : Int)
  /-- A path list that is not an array. -/
  | pathsNotArray
  /-- A section of a dump that must be an object. -/
  | sectionNotObject (name : String)
  /-- A dump without an analysis of the contract. -/
  | noAnalysis (contract : String)
  /-- A value that is no path, because it is no text; the word is the name of its type. -/
  | notAPath (type : String)
  /-- A text that is no path. -/
  | badPath (error : Text.PathError)
  /-- A file that could not be read; the reason is the system's. -/
  | unreadableDump (path reason : String)
  /-- A session without loaded contracts. -/
  | notLoaded
  /-- A contract id that no contract has. -/
  | unknownContract (id : Int)
  /-- A function that no contract lists. -/
  | unknownFunction (spec : String)
  /-- A function that several contracts list. -/
  | ambiguousFunction (spec : String) (candidates : List String)
  /-- A path position beyond the paths of the function. -/
  | pathOutOfRange (index : Int) (count : Nat)
  /-- An event without the integer that it is about. -/
  | eventNeedsInteger (type : String) (key : String)
  /-- An event that switches to a mode that does not exist. -/
  | unknownMode (mode : Wire.Value)
  /-- An event of a type that does not exist. -/
  | unknownEvent (type : Wire.Value)
  /-- A risk level that does not exist. -/
  | unknownLevel (name : Wire.Value)
  /-- A path filter that does not exist. -/
  | unknownFilter (name : Wire.Value)
  /-- A line-map entry that has no length; the word is the name of its type. -/
  | notSized (type : String)
  /-- A line map that has no elements; the word is the name of its type. -/
  | notIterable (type : String)
  /-- A configuration key that does not exist. -/
  | unknownSetting (key : String) (allowed : List String)
  /-- A configuration value that must be a boolean. -/
  | settingNotBoolean (key : String)
  /-- A configuration value that must be an integer. -/
  | settingNotInteger (key : String)
  /-- A configuration value that must be at least one. -/
  | settingNotPositive (key : String)
  /-- Overrides that are no object; the word is the name of their type. -/
  | overridesNotObject (type : String)
  /-- An override of a setting that does not exist. -/
  | unknownOverride (key : String)
  /-- An override under the name of the settings as a whole. -/
  | overrideOfAll (key : String)
  /-- A step kind that does not exist. -/
  | unknownStepKind (name : Wire.Value)
  /-- A call without the argument that its method needs. -/
  | missingArgument (method parameter : String)
  /-- A call with more arguments than its method has parameters. -/
  | surplusArguments (method : String) (parameters arguments : Nat)
  /-- A call without its method. -/
  | emptyCall
  /-- A value that is no call. -/
  | notACall (type : String)
  /-- A method whose name is no text. -/
  | nameNotText (type : String)
  /-- A value that cannot be called. -/
  | notCallable (type : String)
  /-- More names for a report than it has; the report itself counts too. -/
  | surplusNames (count : Nat)
  /-- Names for a report that cannot be gone through; the word is the name of their type. -/
  | namesNotIterable (type : String)
  /-- A key that an object does not have. -/
  | noKey (key : String)
  /-- A value of a type that has no members. -/
  | noMembers (type : String)
  /-- A step that does not exist. -/
  | unknownStep (name : String)
  /-- A variable of the environment that is no text. -/
  | variableNotText (type : String)
  /-- The content of a file that is no text. -/
  | contentNotText (type : String)
  /-- A value of a type that cannot be looked up in a table. -/
  | notHashable (type : String)
  /-- A value of a type in which nothing can be searched for. -/
  | notSearchable (type : String)
  /-- Values of two types that cannot be compared. -/
  | notComparable (operator left right : String)
  /-- A value of a type that is no position in a sequence. -/
  | notAnIndex (sequence type : String)
  /-- A value of a type that has a fraction. -/
  | notWhole (type : String)
  /-- A value of a type that has no such member. -/
  | noMember (type member : String)
  /-- A value that must be an integer. -/
  | notAnInteger (error : Wire.IntegerError)
  /-- An integer with more digits than a numeral may have. -/
  | numeralTooLong
  /-- A level gate at a level that does not exist. -/
  | unknownThreshold (name : String)
  /-- A fault planted by a drill under a label and with a wording of its own. -/
  | planted (label wording : String) (kind : FaultKind)
  deriving Inhabited

namespace Fault

/-- The kind of a cause. -/
def kind : Fault → FaultKind
  | noAnalysis _ | unknownContract _ | unknownThreshold _ | noKey _ => .key
  | notSized _ | notIterable _ | unknownOverride _ | overrideOfAll _ => .type
  | notAText _ | notAPath _ | overridesNotObject _ | missingArgument _ _ | surplusArguments _ _ _ => .type
  | notACall _ | nameNotText _ | notCallable _ | surplusNames _ | namesNotIterable _ | noMembers _ => .type
  | variableNotText _ | contentNotText _ => .type
  | notHashable _ | notSearchable _ | notComparable _ _ _ | notAnIndex _ _ | notWhole _ => .type
  | noMember _ _ => .member
  | notAnInteger (.wrongType _) => .type
  | notAnInteger .infinite => .other
  | notLoaded => .state
  | malformed _ (.tooDeep _) => .state
  | planted _ _ kind => kind
  | _ => .value

/-- The wording of a cause. -/
def message : Fault → String
  | malformed document (.malformed problem line column offset) =>
    s!"Invalid {document.name} JSON: {(Wire.ReadError.malformed problem line column offset).message}"
  | malformed _ error => error.message
  | unencodable error => error.message
  | notAText type => s!"the JSON object must be str, bytes or bytearray, not {type}"
  | rootNotArray document => s!"{document.title} root must be an array"
  | rootNotObject document => s!"{document.title} root must be an object"
  | pathNotObject position => s!"Path entry {Numeral.render position} must be an object"
  | pathsNotArray => "Path list must be an array"
  | sectionNotObject name => s!"Dump section '{name}' must be an object"
  | noAnalysis contract => s!"No analysis for contract '{contract}'"
  | notAPath type => s!"expected str, bytes or os.PathLike object, not {type}"
  | badPath error => error.message
  | unreadableDump path reason => s!"Cannot read dump '{path}': {reason}"
  | notLoaded => "No analysis loaded"
  | unknownContract id => s!"Unknown contract id {Numeral.render id}"
  | unknownFunction spec => s!"Unknown function '{spec}'"
  | ambiguousFunction spec candidates =>
    s!"Function '{spec}' is ambiguous: " ++ ", ".intercalate candidates
  | pathOutOfRange index count =>
    s!"Path {Numeral.render index} out of range; function has {count} path(s)"
  | eventNeedsInteger type key => s!"Event '{type}' requires an integer '{key}'"
  | unknownMode mode => s!"Unknown inspector mode: {mode.literal}"
  | unknownEvent type => s!"Unknown navigation event type: {type.literal}"
  | unknownLevel name => s!"{name.literal} is not a valid RiskLevel"
  | unknownFilter name => s!"{name.literal} is not a valid PathFilter"
  | notSized type => s!"object of type '{type}' has no len()"
  | notIterable type => s!"'{type}' object is not iterable"
  | unknownSetting key allowed =>
    s!"Unknown config key '{key}'. Allowed: " ++ ", ".intercalate allowed ++ "."
  | settingNotBoolean key => s!"Config key '{key}' must be a boolean"
  | settingNotInteger key => s!"Config key '{key}' must be an integer"
  | settingNotPositive key => s!"Config key '{key}' must be >= 1"
  | overridesNotObject type =>
    s!"solc_audit.config.WorkbenchConfig.merged() argument after ** must be a mapping, not {type}"
  | unknownOverride key => s!"WorkbenchConfig.__init__() got an unexpected keyword argument '{key}'"
  | overrideOfAll key => s!"WorkbenchConfig.merged() got multiple values for argument '{key}'"
  | unknownStepKind name => s!"{name.literal} is not a valid StepKind"
  | missingArgument method parameter =>
    s!"DumpEngine.{method}() missing 1 required positional argument: '{parameter}'"
  | surplusArguments method parameters arguments =>
    s!"DumpEngine.{method}() takes {parameters + 1} positional argument" ++
      (if parameters = 0 then "" else "s") ++ s!" but {arguments + 1} were given"
  | emptyCall => "not enough values to unpack (expected at least 1, got 0)"
  | notACall type => s!"cannot unpack non-iterable {type} object"
  | nameNotText type => s!"attribute name must be string, not '{type}'"
  | notCallable type => s!"'{type}' object is not callable"
  | surplusNames count =>
    s!"ReportGenerator.__init__() takes from 1 to 2 positional arguments but {count} were given"
  | namesNotIterable type =>
    s!"solc_audit.report.generator.ReportGenerator() argument after * must be an iterable, not {type}"
  | noKey key => key
  | noMembers type => s!"'{type}' object is not subscriptable"
  | unknownStep name => s!"unknown step {name}"
  | variableNotText type => s!"str expected, not {type}"
  | contentNotText type => s!"data must be str, not {type}"
  | notHashable type => s!"unhashable type: '{type}'"
  | notSearchable type => s!"argument of type '{type}' is not iterable"
  | notComparable operator left right =>
    s!"'{operator}' not supported between instances of '{left}' and '{right}'"
  | notAnIndex "string" type => s!"string indices must be integers, not '{type}'"
  | notAnIndex sequence type => s!"{sequence} indices must be integers or slices, not {type}"
  | notWhole type => s!"'{type}' object cannot be interpreted as an integer"
  | noMember type member => s!"'{type}' object has no attribute '{member}'"
  | notAnInteger error => error.message
  | numeralTooLong =>
    s!"Exceeds the limit ({Numeral.maxDigits} digits) for integer string conversion; " ++
      "use sys.set_int_max_str_digits() to increase the limit"
  | unknownThreshold name => name
  | planted _ wording _ => wording

/-- The wording of a cause on the console: a missing key is quoted. -/
def shown (fault : Fault) : String :=
  if fault.kind = .key then Text.quoted fault.message else fault.message

end Fault

end RangeAudit
