import RangeAudit.Domain.Reading
import RangeAudit.Fault
import RangeAudit.Trace.Basic

namespace RangeAudit

/-!
# Reading traces

A path is an object; what is wrong inside it is left out or replaced by a default. A path list is an
array of paths, or absent.
-/

open Wire (Value)

/-- The kind named by a value; an ordinary statement if it names none. -/
def StepKind.ofWire (v : Value) : StepKind :=
  (v.text?.bind StepKind.ofName?).getD .stmt

/-- The exit named by a value; a truncated path if it names none. -/
def ExitKind.ofWire (v : Value) : ExitKind :=
  (v.text?.bind ExitKind.ofName?).getD .truncated

/-- The domains that an object gives, by variable. -/
def rangesOfWire : Value → Entries String ValueRange
  | .obj fields => Entries.ofList (fields.map fun field => (field.1, ValueRange.ofWire field.2))
  | _ => []

/-- A step: an object is an analysed statement, any other value is its own description. The node may
    be given under either of two keys. -/
def Step.ofWire : Value → Step
  | .null => .described ""
  | .obj fields =>
    let v := Value.obj fields
    .analysed
      { text := v.textField "text" ""
        kind := ((v.field? "type").map StepKind.ofWire).getD .stmt
        node := ((v.field? "nodeId").getD (v.field "node")).int?
        ranges := rangesOfWire (v.field "ranges") }
  | v => .described v.display

/-- A finding, from an object with an operation and the name of a check. -/
def ArithCheck.ofWire? (v : Value) : Option ArithCheck := do
  let node ← v.intField? "opNode"
  let check ← v.stringField? "check"
  if check.isEmpty then none
  else
    some
      { node := node
        check := check
        severity := v.textField "severity" "medium"
        bound := v.textField "bound" ""
        text := v.stringField? "opText" }

/-- An inlined call, from an object with a call and a callee. -/
def InlinedCall.ofWire? (v : Value) : Option InlinedCall := do
  let callNode ← v.intField? "callNode"
  let calleeId ← v.intField? "calleeId"
  some
    { callNode := callNode
      calleeId := calleeId
      calleeName := v.textField "calleeName" ""
      calleePaths := v.intField "calleePaths" 0
      feasiblePaths := v.intField "feasiblePaths" 0 }

/-- A path; `position` is its index unless it has one of its own. -/
def PathTrace.ofWire (position : Int) : Value → Except Fault PathTrace
  | .obj fields =>
    let v := Value.obj fields
    .ok
      { index := v.intField "index" position
        exit := ((v.field? "exit").map ExitKind.ofWire).getD .returns
        feasible := v.flagField "feasible" false
        steps := (v.field "statements").items.map Step.ofWire
        checks := (v.objectsField "arithChecks").filterMap ArithCheck.ofWire?
        calls := (v.objectsField "inlinedCalls").filterMap InlinedCall.ofWire?
        constraintCount := v.intField "constraintCount" 0 }
  | _ => .error (.pathNotObject position)

/-- The paths of an array, numbered from `position` on. -/
def pathsFrom (position : Nat) : List Value → Except Fault (List PathTrace)
  | [] => .ok []
  | v :: rest => do
    let path ← PathTrace.ofWire position v
    let paths ← pathsFrom (position + 1) rest
    return path :: paths

/-- A path list. -/
def pathsOfWire : Value → Except Fault (List PathTrace)
  | .null => .ok []
  | .arr items => pathsFrom 0 items
  | _ => .error .pathsNotArray

end RangeAudit
