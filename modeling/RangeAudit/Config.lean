import RangeAudit.Analysis.Reading

namespace RangeAudit

/-!
# Configuration

The settings of the workbench. A configuration file is an object of known keys, in which hyphens and
underscores are the same; booleans and integers must be such, and integers must be at least one.
-/

open Wire (Value)

/-- The settings of the workbench. -/
structure Config where
  /-- The shortest operation text that is searched for in the source. -/
  minFallbackLength : Int := 2
  /-- The most characters of a number that is shown in full. -/
  shortDigits : Int := 15
  /-- Are static badges shown? -/
  showBadges : Bool := true
  /-- Are infeasible paths listed? -/
  includeInfeasible : Bool := false
  deriving DecidableEq, Inhabited

namespace Config

/-- The keys of a configuration file, in alphabetical order. -/
def keys : List String :=
  ["include_infeasible_paths", "min_fallback_text_length", "short_number_digits", "show_annotations"]

/-- A setting that must be a boolean. -/
def boolean (key : String) : Value → Except Fault Bool
  | .bool b => .ok b
  | _ => .error (.settingNotBoolean key)

/-- A setting that must be an integer and at least one. -/
def positive (key : String) : Value → Except Fault Int
  | .int n => if n < 1 then .error (.settingNotPositive key) else .ok n
  | _ => .error (.settingNotInteger key)

/-- One setting of a configuration file. -/
def set (config : Config) (key : String) (v : Value) : Except Fault Config :=
  match Text.replaceChar '-' ['_'] key with
  | "include_infeasible_paths" => do return { config with includeInfeasible := ← boolean key v }
  | "min_fallback_text_length" => do return { config with minFallbackLength := ← positive key v }
  | "short_number_digits" => do return { config with shortDigits := ← positive key v }
  | "show_annotations" => do return { config with showBadges := ← boolean key v }
  | _ => .error (.unknownSetting key keys)

/-- The settings given by the members of an object; later members prevail. -/
def ofFields (fields : List (String × Value)) : Except Fault Config :=
  fields.foldlM (fun config field => config.set field.1 field.2) {}

/-- The settings of a decoded configuration file. -/
def ofDecoded : Value → Except Fault Config
  | .obj fields => ofFields fields
  | _ => .error (.rootNotObject .config)

/-- The settings in a value that is no document of its own. -/
def ofValue : Value → Except Fault Config
  | .obj fields => ofFields fields
  | v => .error (.noMember v.typeName "items")

/-- Line feeds in the place of carriage returns, with or without a line feed. -/
def plainLineEnds : List Char → List Char
  | '\r' :: '\n' :: rest => '\n' :: plainLineEnds rest
  | '\r' :: rest => '\n' :: plainLineEnds rest
  | c :: rest => c :: plainLineEnds rest
  | [] => []

/-- The settings of a configuration file. -/
def ofText (content : String) : Except Fault Config :=
  decodeDocument .config (.str (String.ofList (plainLineEnds content.toList))) >>= ofDecoded

/-- Settings that take the place of configured ones. -/
structure Overrides where
  minFallbackLength : Option Int := none
  shortDigits : Option Int := none
  showBadges : Option Bool := none
  includeInfeasible : Option Bool := none
  deriving DecidableEq, Inhabited

/-- The settings with the given ones in place of the configured ones. -/
def merged (config : Config) (overrides : Overrides) : Config where
  minFallbackLength := overrides.minFallbackLength.getD config.minFallbackLength
  shortDigits := overrides.shortDigits.getD config.shortDigits
  showBadges := overrides.showBadges.getD config.showBadges
  includeInfeasible := overrides.includeInfeasible.getD config.includeInfeasible

/-- The settings as the members of an object. -/
def members (config : Config) : Entries String Value :=
  [("min_fallback_text_length", .int config.minFallbackLength),
    ("short_number_digits", .int config.shortDigits),
    ("show_annotations", .bool config.showBadges),
    ("include_infeasible_paths", .bool config.includeInfeasible)]

/-- One value in place of a configured one. A `null` takes the place of none; whether the setting can
    have the value is not looked at. -/
def override (members : Entries String Value) (key : String) : Value → Except Fault (Entries String Value)
  | .null => .ok members
  | v => if members.has key then .ok (members.put key v) else .error (.unknownOverride key)

/-- The members of the settings with given values in place of the configured ones. -/
def overridden (config : Config) (values : Entries String Value) : Except Fault (Entries String Value) :=
  if values.has "self" then .error (.overrideOfAll "self")
  else values.foldlM (fun members entry => override members entry.1 entry.2) config.members

end Config

end RangeAudit
