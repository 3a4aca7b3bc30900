import RangeAudit.Argument
import RangeAudit.Report.Gate

namespace RangeAudit

/-!
# Requests for gates and reports

A request may give any value as the specification of a limit, as a threshold, as a profile, and as the names
of a report. What does not fit is refused where it is looked at.

* `GateRequest.read` : the gate of a request, and what it looks at;
* `Report.named` : a report under a name that is given as a sequence.
-/

open Wire (Value)

/-- A gate, and what it looks at, as a request gives them. -/
structure GateRequest where
  specs : Value
  profile : Option Value
  threshold : Value

/-- Why a request for a gate is refused. -/
inductive GateError where
  | limit (error : LimitError)
  | fault (fault : Fault)
  deriving Inhabited

namespace GateRequest

/-- Does a collection contain an equals sign? -/
def hasEquals : Value → Bool
  | .arr items => items.any fun item => item.text? == some "="
  | .obj fields => fields.any fun field => field.1 == "="
  | _ => false

/-- The limit in a specification. -/
def limitOf (spec : Value) : Except GateError (RiskLevel × Int) :=
  match spec with
  | .str text => (Gate.limitOf text).mapError .limit
  | .arr _ | .obj _ =>
    if hasEquals spec then .error (.fault (.noMember spec.typeName "split"))
    else .error (.limit (.notAPair spec.display))
  | _ => .error (.fault (.notSearchable spec.typeName))

/-- The spelling of a threshold. -/
def thresholdOf : Value → Except Fault (Option String)
  | .null => .ok none
  | .str level => .ok (some level)
  | v => .error (.noMember v.typeName "lower")

/-- What a gate looks at in a profile. -/
def inputOf (profile : Value) : GateInput where
  overall := ((profile.field? "overall_max_level").map Value.display).getD "none"
  lineCounts := match profile.field? "lines_by_level" with
    | none => []
    | some (.obj fields) => fields.map fun f => (f.1, f.2.toInteger.mapError Fault.notAnInteger)
    | some v => RiskLevel.gates.map fun level => (level.name, .error (.noMember v.typeName "get"))

/-- The gate of a request, and what it looks at. -/
def read (r : GateRequest) : Except GateError (Gate × GateInput) := do
  let specs ← (Argument.elements r.specs).mapError .fault
  let limits := Entries.ofList (← specs.mapM limitOf)
  let some profile := r.profile | .error (.fault (.noKey "profile"))
  if !profile.isObject then .error (.fault (.noMember profile.typeName "get"))
  let threshold ← (thresholdOf r.threshold).mapError .fault
  return ({ threshold, limits }, inputOf profile)

end GateRequest

/-- A report under the name in a sequence of at most one; without a name it stays as it is. -/
def Report.named (r : Report) (names : Value) : Except Fault Report :=
  match Argument.elements names with
  | .error _ => .error (.namesNotIterable names.typeName)
  | .ok [] => .ok r
  | .ok [name] => .ok { r with contractName := name.display }
  | .ok names => .error (.surplusNames (names.length + 1))

end RangeAudit
