import RangeAudit.Proofs.Wire.Schema

namespace RangeAudit

/-!
# The schemas of the documents

For each record its schema, and that values that agree under the schema are read as the same record.  A list
refuses exactly the entries that its reader rejects.

* `Wire.NoRecord`, `Wire.NoNumber`, `Wire.NoNumbers`, `Interval.Refused`, `ArithCheck.Refused` — what is
  rejected as an object with certain numbers, as a number, as an array of numbers, as an interval and as a
  finding;
* `Interval.ofWire?_eq_none_iff` and its likes — nothing else is;
* `ValueRange.ofWire_eq`, `Contract.ofWire?_eq` and their likes — one lemma for each record;
* `contractsOfWire_eq`, `Analysis.ofWire_eq`, `pathsOfWire_eq`, `MappedSource.ofWire_eq` — whole documents.
-/

open Wire (Value Schema)

/-! ### What lists refuse -/

namespace Wire

/-- Not an object, or an object in which one of the members does not write an integer. -/
def NoRecord (keys : List String) (v : Value) : Prop :=
  v.isObject = false ∨ ∃ key ∈ keys, v.intField? key = none

/-- Nothing that writes an integer. -/
def NoNumber (v : Value) : Prop :=
  v.int? = none

/-- Not an array of the length, or an array with an entry that does not write an integer. -/
def NoNumbers (length : Nat) (v : Value) : Prop :=
  ∀ items, v = .arr items → items.length = length → ∃ item ∈ items, NoNumber item

/-- What is not an object has no members, so none that writes an integer. -/
theorem Value.intField?_eq_none {v : Value} (h : v.isObject = false) (key : String) :
    v.intField? key = none := by
  cases v with
  | obj => cases h
  | _ => rfl

/-- What is not an object has no member that writes an integer. -/
theorem noRecord_cons_iff {key : String} {keys : List String} {v : Value} :
    NoRecord (key :: keys) v ↔ ∃ key' ∈ key :: keys, v.intField? key' = none := by
  refine ⟨?_, .inr⟩
  rintro (hobject | hmember)
  · exact ⟨key, List.mem_cons_self, Value.intField?_eq_none hobject key⟩
  · exact hmember

/-- Of one number that is needed, it is enough to say that it is missing. -/
theorem noRecord_singleton_iff {key : String} {v : Value} : NoRecord [key] v ↔ v.intField? key = none := by
  simp [noRecord_cons_iff]

/-- A record that needs a number is not read without it. -/
theorem NoRecord.map_eq_none {α : Type} {key : String} {v : Value} (h : NoRecord [key] v) (make : Int → α) :
    (v.intField? key).map make = none := by
  rw [noRecord_singleton_iff.mp h, Option.map_none]

end Wire

open Wire

/-- Not an array of two integers, or two integers of which the first is greater. -/
def Interval.Refused (v : Value) : Prop :=
  NoNumbers 2 v ∨ ∃ low high m n, v = .arr [low, high] ∧ low.int? = some m ∧ high.int? = some n ∧ n < m

/-- An interval is read from an array of two integers in order, and from nothing else. -/
theorem Interval.ofWire?_eq_none_iff (v : Value) : Interval.ofWire? v = none ↔ Interval.Refused v := by
  unfold Interval.ofWire?
  split
  · rename_i low high
    cases hlow : low.int? <;> cases hhigh : high.int? <;> simp [Refused, NoNumbers, NoNumber, hlow, hhigh]
  · rename_i hother
    refine iff_of_true rfl (.inl fun items hitems hlength => ?_)
    obtain ⟨low, high, rfl⟩ := List.length_eq_two.mp hlength
    exact absurd hitems (hother low high)

/-- A place is read from an array of three integers, and from nothing else. -/
theorem LinePlace.ofWire?_eq_none_iff (v : Value) : LinePlace.ofWire? v = none ↔ NoNumbers 3 v := by
  unfold LinePlace.ofWire?
  split
  · rename_i line column node
    cases hline : line.int? <;> cases hcolumn : column.int? <;> cases hnode : node.int? <;>
      simp [NoNumbers, NoNumber, hline, hcolumn, hnode]
  · rename_i hother
    refine iff_of_true rfl fun items hitems hlength => ?_
    obtain ⟨line, column, node, rfl⟩ := List.length_eq_three.mp hlength
    exact absurd hitems (hother line column node)

/-- An object without an operation, without a text as the name of the check, or with an empty one; or
    not an object. -/
def ArithCheck.Refused (v : Value) : Prop :=
  NoRecord ["opNode"] v ∨ v.stringField? "check" = none ∨ v.stringField? "check" = some ""

/-- A finding is read from an object with an operation and a check that has a name, and from nothing else. -/
theorem ArithCheck.ofWire?_eq_none_iff (v : Value) : ArithCheck.ofWire? v = none ↔ ArithCheck.Refused v := by
  rw [Refused, noRecord_singleton_iff, ofWire?]
  cases hnode : v.intField? "opNode" <;> cases hcheck : v.stringField? "check" <;> simp

/-- An inlined call is read from an object with a call and a callee, and from nothing else. -/
theorem InlinedCall.ofWire?_eq_none_iff (v : Value) :
    InlinedCall.ofWire? v = none ↔ NoRecord ["callNode", "calleeId"] v := by
  rw [noRecord_cons_iff, ofWire?]
  cases hcall : v.intField? "callNode" <;> cases hcallee : v.intField? "calleeId" <;> simp [hcall, hcallee]

namespace Wire.Schema.Agree

/-- Every object of a list is read, and nothing else. -/
theorem map_objectsField {α : Type} {named : Entries String Schema} {member : String → Schema} {v w : Value}
    (h : (object named).Agree v w) (key : String)
    (hkey : named.find? key = some (list (NoRecord []) (members member))) (read : Value → α)
    (hentry : ∀ v w, (members member).Agree v w → read v = read w) :
    (v.objectsField key).map read = (w.objectsField key).map read := by
  rw [← List.filterMap_eq_map]
  refine (h.field key hkey).padded_objects.filterMap_eq (fun v w h => congrArg some (hentry v w h)) ?_
  rintro w ⟨hobject | ⟨key, hmem, -⟩, hw⟩
  · -- Only what is not an object is refused here.
    rw [hobject] at hw
    cases hw
  · cases hmem

end Wire.Schema.Agree

/-! ### Ranges -/

/-- Of a bound, only the two numbers count, whatever else its object has. -/
theorem Bound.ofWire_eq {named : Entries String Schema} {v w : Value} (h : (Schema.object named).Agree v w)
    (hmin : named.find? "min" = some .number) (hmax : named.find? "max" = some .number) :
    Bound.ofWire v = Bound.ofWire w := by
  rw [Bound.ofWire, Bound.ofWire, h.intField?_eq "min" hmin, h.intField?_eq "max" hmax]

namespace Interval

def schema : Schema :=
  .list Schema.never .number

/-- Intervals that agree are read alike: with two entries, by their numbers, and with more or fewer, not at all.
    -/
theorem ofWire?_eq {v w : Value} (h : schema.Agree v w) : ofWire? v = ofWire? w := by
  rcases h.forall₂_int?_eq with rfl | ⟨vs, ws, rfl, rfl, hnumbers⟩
  · rfl
  · rcases hnumbers with _ | ⟨hlow, _ | ⟨hhigh, _ | _⟩⟩
    · rfl
    · rfl
    · rw [ofWire?, ofWire?, hlow, hhigh]
    · rfl

end Interval

namespace ValueRange

def schema : Schema :=
  .object [("intervals", .list Interval.Refused Interval.schema), ("exclusions", .list NoNumber .number),
    ("min", .number), ("max", .number)]

/-- Ranges that agree are read alike, since what their lists refuse is what the readers of the entries reject.
    -/
theorem ofWire_eq {v w : Value} (h : schema.Agree v w) : ofWire v = ofWire w := by
  have hintervals := (h.field "intervals" rfl).filterMap_items (fun _ _ => Interval.ofWire?_eq)
    fun w => (Interval.ofWire?_eq_none_iff w).mpr
  have hexclusions := (h.field "exclusions" rfl).filterMap_items (fun _ _ hnumber => hnumber)
    fun _ hnone => hnone
  rw [ofWire, ofWire, hintervals, hexclusions, h.intField?_eq "min" rfl, h.intField?_eq "max" rfl]

end ValueRange

/-! ### Traces -/

/-- The ranges of a step, by variable. -/
theorem rangesOfWire_eq {v w : Value} (h : (Schema.members fun _ => ValueRange.schema).Agree v w) :
    rangesOfWire v = rangesOfWire w := by
  rcases h with rfl | ⟨fs, gs, rfl, rfl, hmembers⟩
  · rfl
  · refine congrArg Entries.ofList ?_
    induction hmembers with
    | nil => rfl
    | cons hmember _ ih =>
      rw [List.map_cons, List.map_cons, hmember.1, ValueRange.ofWire_eq hmember.2, ih]

namespace Step

def schema : Schema :=
  .object [("nodeId", .number), ("node", .number), ("ranges", .members fun _ => ValueRange.schema)]

/-- Steps that agree are read alike. -/
theorem ofWire_eq {v w : Value} (h : schema.Agree v w) : ofWire v = ofWire w := by
  rcases id h with rfl | ⟨fs, gs, rfl, rfl, -⟩
  · rfl
  · -- The second key counts only where the first one is absent.
    have hnode : ((Value.obj fs).field? "nodeId" |>.getD ((Value.obj fs).field "node")).int? =
        ((Value.obj gs).field? "nodeId" |>.getD ((Value.obj gs).field "node")).int? :=
      h.field?_getD "nodeId" rfl (h.field "node" rfl)
    simp only [ofWire, h.textField_eq "text" "" rfl, h.field?_eq "type" rfl, hnode,
      rangesOfWire_eq (h.field "ranges" rfl)]

end Step

namespace ArithCheck

def schema : Schema :=
  .object [("opNode", .number)]

/-- Findings that agree are read alike. -/
theorem ofWire?_eq {v w : Value} (h : schema.Agree v w) : ofWire? v = ofWire? w := by
  rw [ofWire?, ofWire?, h.intField?_eq "opNode" rfl, h.stringField?_eq "check" rfl,
    h.textField_eq "severity" "medium" rfl, h.textField_eq "bound" "" rfl, h.stringField?_eq "opText" rfl]

end ArithCheck

namespace InlinedCall

def schema : Schema :=
  .object [("callNode", .number), ("calleeId", .number), ("calleePaths", .number), ("feasiblePaths", .number)]

/-- Inlined calls that agree are read alike. -/
theorem ofWire?_eq {v w : Value} (h : schema.Agree v w) : ofWire? v = ofWire? w := by
  rw [ofWire?, ofWire?, h.intField?_eq "callNode" rfl, h.intField?_eq "calleeId" rfl,
    h.textField_eq "calleeName" "" rfl, h.intField_eq "calleePaths" 0 rfl,
    h.intField_eq "feasiblePaths" 0 rfl]

end InlinedCall

namespace PathTrace

def schema : Schema :=
  .object [("index", .number), ("constraintCount", .number), ("statements", .list Schema.never Step.schema),
    ("arithChecks", .list ArithCheck.Refused ArithCheck.schema),
    ("inlinedCalls", .list (NoRecord ["callNode", "calleeId"]) InlinedCall.schema)]

/-- Paths that agree are read alike, at whatever position they stand; if they are no objects, with the same
    fault. -/
theorem ofWire_eq {v w : Value} (h : schema.Agree v w) (position : Int) :
    ofWire position v = ofWire position w := by
  rcases id h with rfl | ⟨fs, gs, rfl, rfl, -⟩
  · rfl
  · have hsteps := (h.field "statements" rfl).map_items fun _ _ => Step.ofWire_eq
    have hchecks := h.filterMap_objectsField "arithChecks" rfl (fun _ _ => ArithCheck.ofWire?_eq)
      fun w => (ArithCheck.ofWire?_eq_none_iff w).mpr
    have hcalls := h.filterMap_objectsField "inlinedCalls" rfl (fun _ _ => InlinedCall.ofWire?_eq)
      fun w => (InlinedCall.ofWire?_eq_none_iff w).mpr
    simp only [ofWire, h.intField_eq "index" position rfl, h.field?_eq "exit" rfl,
      h.flagField_eq "feasible" false rfl, hsteps, hchecks, hcalls,
      h.intField_eq "constraintCount" 0 rfl]

/-- A list of paths. -/
def listSchema : Schema :=
  .list Schema.never schema

end PathTrace

/-- Paths that correspond to each other are read as the same, from the same position on.  No path is
    refused, so that no position changes. -/
theorem pathsFrom_eq {vs ws : List Value} (h : List.Forall₂ PathTrace.schema.Agree vs ws) (position : Nat) :
    pathsFrom position vs = pathsFrom position ws := by
  induction h generalizing position with
  | nil => rfl
  | cons hpath _ ih => rw [pathsFrom, pathsFrom, PathTrace.ofWire_eq hpath position, ih]

/-- **Documents of paths.** Lists of paths that agree are read alike, or fail with the same fault. -/
theorem pathsOfWire_eq {v w : Value} (h : PathTrace.listSchema.Agree v w) :
    pathsOfWire v = pathsOfWire w := by
  rcases h with rfl | ⟨vs, ws, rfl, rfl, hpadded⟩
  · rfl
  · exact pathsFrom_eq hpadded.forall₂ 0

/-! ### Contracts -/

namespace FunctionInfo

def schema : Schema :=
  .object [("id", .number)]

/-- Functions of a contract that agree are read alike. -/
theorem ofWire?_eq {v w : Value} (h : schema.Agree v w) : ofWire? v = ofWire? w := by
  rw [ofWire?, ofWire?, h.intField?_eq "id" rfl, h.textField_eq "name" "" rfl,
    h.textField_eq "visibility" "public" rfl, h.textField_eq "stateMutability" "nonpayable" rfl,
    h.flagField_eq "isConstructor" false rfl, h.textField_eq "kind" "function" rfl,
    h.flagField_eq "hasBody" true rfl]

end FunctionInfo

namespace StateVariable

def schema : Schema :=
  .object [("id", .number)]

/-- State variables that agree are read alike. -/
theorem ofWire?_eq {v w : Value} (h : schema.Agree v w) : ofWire? v = ofWire? w := by
  rw [ofWire?, ofWire?, h.intField?_eq "id" rfl, h.textField_eq "name" "" rfl,
    h.textField_eq "typeString" "" rfl, h.textField_eq "visibility" "internal" rfl,
    h.flagField_eq "constant" false rfl]

end StateVariable

namespace Contract

def schema : Schema :=
  .object [("id", .number), ("functions", .list (NoRecord ["id"]) FunctionInfo.schema),
    ("stateVars", .list (NoRecord ["id"]) StateVariable.schema)]

/-- Contracts that agree are read alike. -/
theorem ofWire?_eq {v w : Value} (h : schema.Agree v w) : ofWire? v = ofWire? w := by
  have hfunctions := h.filterMap_objectsField "functions" rfl (fun _ _ => FunctionInfo.ofWire?_eq)
    fun _ hw => hw.map_eq_none _
  have hvariables := h.filterMap_objectsField "stateVars" rfl (fun _ _ => StateVariable.ofWire?_eq)
    fun _ hw => hw.map_eq_none _
  rw [ofWire?, ofWire?, h.intField?_eq "id" rfl, h.textField_eq "name" "" rfl,
    h.textField_eq "kind" "contract" rfl, h.flagField_eq "isAbstract" false rfl,
    h.textField_eq "sourceFile" "" rfl, hfunctions, hvariables]

/-- A list of contracts. -/
def listSchema : Schema :=
  .list (NoRecord ["id"]) schema

end Contract

/-- **Documents of contracts.** Lists of contracts that agree are read alike. -/
theorem contractsOfWire_eq {v w : Value} (h : Contract.listSchema.Agree v w) :
    contractsOfWire v = contractsOfWire w := by
  have hcontracts := h.filterMap_objects (fun _ _ => Contract.ofWire?_eq) fun _ hw => hw.map_eq_none _
  rcases h with rfl | ⟨vs, ws, rfl, rfl, -⟩
  · rfl
  · exact congrArg Except.ok hcontracts

/-! ### Analyses -/

namespace FunctionAnalysis

def schema : Schema :=
  .object [("functionId", .number), ("intraPaths", .number), ("interPaths", .number),
    ("feasiblePaths", .number), ("infeasiblePaths", .number), ("returnPaths", .number),
    ("revertPaths", .number), ("paths", PathTrace.listSchema),
    ("inlinedCallees", .list (NoRecord []) (.object [("paths", .number)]))]

/-- Analyses of a function that agree are read alike. -/
theorem ofWire_eq {v w : Value} (h : schema.Agree v w) : ofWire v = ofWire w := by
  have hpaths := pathsFrom_eq (h.field "paths" rfl).padded_items.forall₂ 0
  have hcallees := h.map_objectsField "inlinedCallees" rfl
    (fun callee => (callee.textField "name" "", callee.intField "paths" 0))
    fun v w hcallee => by rw [hcallee.textField_eq "name" "" rfl, hcallee.intField_eq "paths" 0 rfl]
  simp only [ofWire, h.intField?_eq "functionId" rfl, hpaths, h.textField_eq "functionName" "" rfl,
    h.stringField?_eq "contractName" rfl, h.intField_eq "intraPaths" 0 rfl, h.intField_eq "interPaths" 0 rfl,
    h.intField_eq "feasiblePaths" 0 rfl, h.intField_eq "infeasiblePaths" 0 rfl,
    h.intField_eq "returnPaths" 0 rfl, h.intField_eq "revertPaths" 0 rfl, hcallees]

end FunctionAnalysis

/-- A refused entry of the list of functions is passed over, whatever paths it has. -/
theorem functionsOfWire_eq {vs ws : List Value}
    (h : Schema.Padded (fun w => NoRecord ["functionId"] w ∧ w.isObject = true) FunctionAnalysis.schema.Agree
      vs ws) : functionsOfWire vs = functionsOfWire ws := by
  induction h with
  | nil => rfl
  | entry hfunction _ ih =>
    rw [functionsOfWire, functionsOfWire, FunctionAnalysis.ofWire_eq hfunction, ih]
  | @refused w vs ws hrefused _ ih =>
    have hnone : FunctionAnalysis.ofWire w = .ok none := by
      rw [FunctionAnalysis.ofWire, noRecord_singleton_iff.mp hrefused.1]
    rw [functionsOfWire, hnone, ih]
    cases functionsOfWire ws <;> rfl

namespace CallNode

def schema : Schema :=
  .object [("id", .number)]

/-- Nodes of a call graph that agree are read alike. -/
theorem ofWire?_eq {v w : Value} (h : schema.Agree v w) : ofWire? v = ofWire? w := by
  rw [ofWire?, ofWire?, h.intField?_eq "id" rfl, h.textField_eq "name" "" rfl,
    h.stringField?_eq "contractName" rfl]

end CallNode

namespace CallEdge

def schema : Schema :=
  .object [("from", .number), ("to", .number), ("callSite", .number)]

/-- Edges of a call graph that agree are read alike. -/
theorem ofWire?_eq {v w : Value} (h : schema.Agree v w) : ofWire? v = ofWire? w := by
  rw [ofWire?, ofWire?, h.intField?_eq "from" rfl, h.intField?_eq "to" rfl, h.intField_eq "callSite" (-1) rfl,
    h.flagField_eq "isExternal" false rfl, h.stringField?_eq "callKind" rfl,
    h.stringField?_eq "memberName" rfl]

end CallEdge

namespace CallGraph

def schema : Schema :=
  .object [("nodes", .list (NoRecord ["id"]) CallNode.schema),
    ("edges", .list (NoRecord ["from"]) CallEdge.schema), ("recursiveFunctions", .list NoNumber .number)]

/-- Call graphs that agree are read alike; the recursive functions are a list of mere numbers. -/
theorem ofWire_eq {v w : Value} (h : schema.Agree v w) : ofWire v = ofWire w := by
  have hnodes := h.filterMap_objectsField "nodes" rfl (fun _ _ => CallNode.ofWire?_eq)
    fun _ hw => hw.map_eq_none _
  have hedges := h.filterMap_objectsField "edges" rfl (fun _ _ => CallEdge.ofWire?_eq)
    fun _ hw => hw.map_eq_none _
  have hrecursive := (h.field "recursiveFunctions" rfl).filterMap_items (fun _ _ hnumber => hnumber)
    fun _ hnone => hnone
  rw [ofWire, ofWire, hnodes, hedges, hrecursive]

end CallGraph

namespace StateWrite

def schema : Schema :=
  .object [("varId", .number), ("min", .number), ("max", .number)]

/-- Writes of a state variable that agree are read alike. -/
theorem ofWire?_eq {v w : Value} (h : schema.Agree v w) : ofWire? v = ofWire? w := by
  rw [ofWire?, ofWire?, h.intField?_eq "varId" rfl, h.textField_eq "varName" "" rfl,
    Bound.ofWire_eq h rfl rfl]

end StateWrite

/-- The range of the values that a function returns is read from its bound, if it is an object. -/
theorem returnRangeOfWire_eq {v w : Value}
    (h : (Schema.object [("min", .number), ("max", .number)]).Agree v w) :
    returnRangeOfWire v = returnRangeOfWire w := by
  rcases id h with rfl | ⟨fs, gs, rfl, rfl, -⟩
  · rfl
  · exact congrArg some (Bound.ofWire_eq h rfl rfl)

namespace FunctionSummary

def schema : Schema :=
  .object [("functionId", .number),
    ("paramRanges",
      .list (NoRecord []) (.object [("paramIndex", .number), ("min", .number), ("max", .number)])),
    ("returnRange", .object [("min", .number), ("max", .number)]),
    ("stateWrites", .list (NoRecord ["varId"]) StateWrite.schema)]

/-- Summaries of a function that agree are read alike. -/
theorem ofWire?_eq {v w : Value} (h : schema.Agree v w) : ofWire? v = ofWire? w := by
  have hparams := h.map_objectsField "paramRanges" rfl
    (fun param => (param.intField "paramIndex" 0, Bound.ofWire param))
    fun v w hparam => by rw [hparam.intField_eq "paramIndex" 0 rfl, Bound.ofWire_eq hparam rfl rfl]
  have hwrites := h.filterMap_objectsField "stateWrites" rfl (fun _ _ => StateWrite.ofWire?_eq)
    fun _ hw => hw.map_eq_none _
  rw [ofWire?, ofWire?, h.intField?_eq "functionId" rfl, h.textField_eq "functionName" "" rfl,
    h.stringField?_eq "contractName" rfl, hparams, returnRangeOfWire_eq (h.field "returnRange" rfl), hwrites]

end FunctionSummary

namespace GlobalRange

def schema : Schema :=
  .object [("varId", .number), ("min", .number), ("max", .number)]

/-- Ranges of a state variable that agree are read alike. -/
theorem ofWire?_eq {v w : Value} (h : schema.Agree v w) : ofWire? v = ofWire? w := by
  rw [ofWire?, ofWire?, h.intField?_eq "varId" rfl, h.textField_eq "varName" "" rfl,
    h.stringField?_eq "contractName" rfl, h.textField_eq "typeString" "" rfl, Bound.ofWire_eq h rfl rfl]

end GlobalRange

namespace FunctionRef

def schema : Schema :=
  .object [("funcId", .number)]

/-- References to a function that agree are read alike. -/
theorem ofWire?_eq {v w : Value} (h : schema.Agree v w) : ofWire? v = ofWire? w := by
  rw [ofWire?, ofWire?, h.intField?_eq "funcId" rfl, h.textField_eq "funcName" "" rfl,
    h.stringField?_eq "contractName" rfl]

end FunctionRef

namespace StateAccess

def schema : Schema :=
  .object [("varId", .number), ("contractId", .number),
    ("readers", .list (NoRecord ["funcId"]) FunctionRef.schema),
    ("writers", .list (NoRecord ["funcId"]) FunctionRef.schema)]

/-- Accesses of a state variable that agree are read alike. -/
theorem ofWire?_eq {v w : Value} (h : schema.Agree v w) : ofWire? v = ofWire? w := by
  have hreaders := h.filterMap_objectsField "readers" rfl (fun _ _ => FunctionRef.ofWire?_eq)
    fun _ hw => hw.map_eq_none _
  have hwriters := h.filterMap_objectsField "writers" rfl (fun _ _ => FunctionRef.ofWire?_eq)
    fun _ hw => hw.map_eq_none _
  rw [ofWire?, ofWire?, h.intField?_eq "varId" rfl, h.textField_eq "varName" "" rfl,
    h.textField_eq "typeString" "" rfl, h.intField_eq "contractId" (-1) rfl,
    h.textField_eq "contractName" "" rfl, hreaders, hwriters]

end StateAccess

namespace Analysis

def schema : Schema :=
  .object [("functions", .list (NoRecord ["functionId"]) FunctionAnalysis.schema),
    ("callGraph", CallGraph.schema), ("summaries", .list (NoRecord ["functionId"]) FunctionSummary.schema),
    ("globalRanges", .list (NoRecord ["varId"]) GlobalRange.schema),
    ("stateVarAnalysis", .list (NoRecord ["varId"]) StateAccess.schema)]

/-- Analyses that agree are read alike, member by member; only their functions can fail. -/
theorem ofDecoded_eq {v w : Value} (h : schema.Agree v w) : ofDecoded v = ofDecoded w := by
  have hfunctions :
      functionsOfWire (v.objectsField "functions") = functionsOfWire (w.objectsField "functions") :=
    functionsOfWire_eq (h.field "functions" rfl).padded_objects
  have hsummaries := h.filterMap_objectsField "summaries" rfl (fun _ _ => FunctionSummary.ofWire?_eq)
    fun _ hw => hw.map_eq_none _
  have hglobals := h.filterMap_objectsField "globalRanges" rfl (fun _ _ => GlobalRange.ofWire?_eq)
    fun _ hw => hw.map_eq_none _
  have haccesses := h.filterMap_objectsField "stateVarAnalysis" rfl (fun _ _ => StateAccess.ofWire?_eq)
    fun _ hw => hw.map_eq_none _
  rw [ofDecoded, ofDecoded, h.isObject_eq, hfunctions, CallGraph.ofWire_eq (h.field "callGraph" rfl),
    hsummaries, hglobals, haccesses]

/-- **Documents of an analysis.** A text, which is decoded before it is read, agrees only with itself. -/
theorem ofWire_eq {v w : Value} (h : schema.Agree v w) : ofWire v = ofWire w := by
  have hdecoded := ofDecoded_eq h
  rcases h with rfl | ⟨fs, gs, rfl, rfl, -⟩
  · rfl
  · exact hdecoded

end Analysis

/-! ### Sources -/

/-- Places that agree are read alike: with three entries, by their numbers, and with more or fewer, not at all.
    -/
theorem LinePlace.ofWire?_eq {v w : Value} (h : (Schema.list Schema.never .number).Agree v w) :
    LinePlace.ofWire? v = LinePlace.ofWire? w := by
  rcases h.forall₂_int?_eq with rfl | ⟨vs, ws, rfl, rfl, hnumbers⟩
  · rfl
  · rcases hnumbers with _ | ⟨hline, _ | ⟨hcolumn, _ | ⟨hnode, _ | _⟩⟩⟩
    · rfl
    · rfl
    · rfl
    · rw [ofWire?, ofWire?, hline, hcolumn, hnode]
    · rfl

namespace MappedSource

def schema : Schema :=
  .object [("lineMap", .list (NoNumbers 3) (.list Schema.never .number))]

/-- Sources that agree are read alike. -/
theorem ofDecoded_eq {v w : Value} (h : schema.Agree v w) : ofDecoded v = ofDecoded w := by
  have hplaces := (h.field "lineMap" rfl).filterMap_items (fun _ _ => LinePlace.ofWire?_eq)
    fun w => (LinePlace.ofWire?_eq_none_iff w).mpr
  rw [ofDecoded, ofDecoded, h.isObject_eq, h.stringField?_eq "source" rfl, hplaces]

/-- **Documents of a source.** A text, which is decoded before it is read, agrees only with itself. -/
theorem ofWire_eq {v w : Value} (h : schema.Agree v w) : ofWire v = ofWire w := by
  have hdecoded := ofDecoded_eq h
  rcases h with rfl | ⟨fs, gs, rfl, rfl, -⟩
  · rfl
  · exact hdecoded

end MappedSource

end RangeAudit
