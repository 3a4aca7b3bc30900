import RangeAudit.Fault
import RangeAudit.Wire.Field

namespace RangeAudit

/-!
# Navigation events

What an auditor can do, and the objects by which it is announced.
-/

open Wire (Value)

/-- What the inspector shows. -/
inductive InspectorMode where
  | overview
  | path
  | variableDetail
  | rawData
  deriving DecidableEq, Inhabited

namespace InspectorMode

/-- The name of a mode on the wire. -/
def name : InspectorMode → String
  | overview => "overview"
  | path => "path"
  | variableDetail => "variable"
  | rawData => "raw-data"

/-- The mode of a name. -/
def ofName? (name : String) : Option InspectorMode :=
  [overview, path, variableDetail, rawData].find? fun mode => mode.name == name

end InspectorMode

/-- A step of an auditor through the workbench. -/
inductive NavigationEvent where
  | selectContract (contractId : Int)
  | selectFunction (functionId : Int) (contractId : Option Int)
  | navigateToFunction (functionId : Int) (contractId : Option Int)
  | selectPath (pathIndex : Int)
  | highlightStep (stepIndex : Int)
  | backToOverview
  | switchMode (mode : InspectorMode)
  | inspectVariable (variableId : Option Int) (variableName : Option String)
  | selectLine (line : Int)
  deriving DecidableEq, Inhabited

namespace NavigationEvent

/-- The first integer under one of the keys; an event of the type needs one. -/
def requiredInt (type : String) (v : Value) (first : String) (others : List String) :
    Except Fault Int :=
  match (first :: others).findSome? v.intField? with
  | some n => .ok n
  | none => .error (.eventNeedsInteger type first)

/-- The event that the members of an object announce. -/
def ofMembers (v : Value) : Except Fault NavigationEvent :=
  match v.field "type" with
  | .str "select-contract" =>
    return .selectContract (← requiredInt "select-contract" v "id" ["contractId"])
  | .str "select-function" =>
    return .selectFunction (← requiredInt "select-function" v "id" ["functionId"]) none
  | .str "navigate-to-function" =>
    return .navigateToFunction (← requiredInt "navigate-to-function" v "functionId" ["id"]) none
  | .str "select-path" => return .selectPath (← requiredInt "select-path" v "pathIndex" [])
  | .str "highlight-step" => return .highlightStep (← requiredInt "highlight-step" v "stepIndex" [])
  | .str "back-to-overview" | .str "back" => return .backToOverview
  | .str "switch-mode" =>
    match (v.stringField? "mode").bind InspectorMode.ofName? with
    | some mode => return .switchMode mode
    | none => throw (.unknownMode (v.field "mode"))
  | .str "inspect-variable" =>
    return .inspectVariable (v.intField? "varId") (v.stringField? "varName")
  | .str "select-line" => return .selectLine (← requiredInt "select-line" v "line" [])
  | type => throw (.unknownEvent type)

/-- The event that a value announces; only objects announce events. -/
def ofWire (v : Value) : Except Fault NavigationEvent :=
  if v.isObject then ofMembers v else throw (.noMember v.typeName "get")

end NavigationEvent

end RangeAudit
