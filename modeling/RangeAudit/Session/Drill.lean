import RangeAudit.Archive.Call
import RangeAudit.Session.Workbench

namespace RangeAudit

/-!
# Drills

A drill plants a fault in a place that is given by its name, to see what the views of a session make of it.

* `Workbench.drill` : plant a fault of a label in a place.
-/

/-- The projection of a name. -/
def Projection.ofName? (name : String) : Option Projection :=
  Entries.find?
    [("aggregate_line_risks", lineRisks), ("project_ranges", rangeNotes), ("annotate_lines", marginLines),
      ("risk_summary", riskSummary), ("step_line", stepLine), ("DomainTracker", tracker)] name

/-- The kind of the faults of a label. -/
def FaultKind.ofLabel (label : String) : FaultKind :=
  if ["ValueError", "UnicodeError"].contains label then .value
  else if label = "KeyError" then .key
  else if label = "TypeError" then .type
  else if label = "IndexError" then .index
  else if label = "AttributeError" then .member
  else if ["RuntimeError", "NotImplementedError", "RecursionError"].contains label then .state
  else .other

/-- The fault of a label. Two labels are old names of another one. -/
def Fault.ofLabel (label wording : String) : Fault :=
  let label := if ["IOError", "EnvironmentError"].contains label then "OSError" else label
  .planted label wording (.ofLabel label)

namespace Workbench

/-- Plant a fault of a label in a method of the engine. The end of an iteration cannot leave a call
    that is waited for. -/
def drillMethod (b : Workbench) (method : EngineMethod) (label wording : String) : Workbench :=
  b.plantMethod method
    (if label = "StopIteration" then .ofLabel "RuntimeError" "coroutine raised StopIteration"
      else .ofLabel label wording)

/-- Plant a fault of a label in a place: a projection, or a method of the engine. -/
def drill (b : Workbench) (place label wording : String) : Workbench :=
  match Projection.ofName? place, Text.cutFirst? '.' place with
  | some projection, _ => b.plantProjection projection (.ofLabel label wording)
  | none, some ("engine", name) =>
    match EngineMethod.ofName? name with
    | some method => b.drillMethod method label wording
    | none => b
  | none, _ => b

end Workbench

end RangeAudit
