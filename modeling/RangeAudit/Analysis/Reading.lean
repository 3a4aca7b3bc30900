import RangeAudit.Analysis.Basic
import RangeAudit.Text.LowerCase
import RangeAudit.Trace.Reading

namespace RangeAudit

/-!
# Reading contracts and analyses

Each list keeps the entries that are objects with the id they need, in order, and leaves the others
out. Only the outermost value, and the paths of a function, can make a document unacceptable. A
string in the place of a document is the document's text.
-/

open Wire (Value)

/-- A contract that can be analysed: neither an interface nor a library, and with functions. -/
def Contract.analyzable (c : Contract) : Bool :=
  !(["interface", "library"].contains (Text.toLower c.kind)) && !c.functions.isEmpty

/-- The document that a value stands for: the text of a string is read. -/
def decodeDocument (kind : DocumentKind) : Value → Except Fault Value
  | .str text =>
    match Wire.read text with
    | .ok v => .ok v
    | .error e => .error (.malformed kind e)
  | v => .ok v

/-- The document in the content of a file, which must be a text that can be written to a file. -/
def decodeFile (kind : DocumentKind) (content : String) : Except Fault Value :=
  match Text.unencodable? content with
  | some e => .error (.unencodable e)
  | none =>
    match Wire.readFile content with
    | .ok v => .ok v
    | .error e => .error (.malformed kind e)

/-- A function, from an object with an id. -/
def FunctionInfo.ofWire? (v : Value) : Option FunctionInfo :=
  (v.intField? "id").map fun id =>
    { id := id
      name := v.textField "name" ""
      visibility := v.textField "visibility" "public"
      stateMutability := v.textField "stateMutability" "nonpayable"
      isConstructor := v.flagField "isConstructor" false
      kind := v.textField "kind" "function"
      hasBody := v.flagField "hasBody" true }

/-- A state variable, from an object with an id. -/
def StateVariable.ofWire? (v : Value) : Option StateVariable :=
  (v.intField? "id").map fun id =>
    { id := id
      name := v.textField "name" ""
      type := v.textField "typeString" ""
      visibility := v.textField "visibility" "internal"
      constant := v.flagField "constant" false }

/-- A contract, from an object with an id. -/
def Contract.ofWire? (v : Value) : Option Contract :=
  (v.intField? "id").map fun id =>
    { id := id
      name := v.textField "name" ""
      kind := v.textField "kind" "contract"
      isAbstract := v.flagField "isAbstract" false
      sourceFile := v.textField "sourceFile" ""
      functions := (v.objectsField "functions").filterMap FunctionInfo.ofWire?
      stateVariables := (v.objectsField "stateVars").filterMap StateVariable.ofWire? }

/-- The contracts of a decoded contract list. -/
def contractsOfDecoded : Value → Except Fault (List Contract)
  | .arr items => .ok ((Value.arr items).objects.filterMap Contract.ofWire?)
  | _ => .error (.rootNotArray .contractList)

/-- The contracts of a contract list, decoded or as a text. -/
def contractsOfWire (v : Value) : Except Fault (List Contract) :=
  decodeDocument .contractList v >>= contractsOfDecoded

/-- A function's analysis, from an object with a function id. A path that is no object makes the whole
    analysis unacceptable; a path list that is no array counts as absent. -/
def FunctionAnalysis.ofWire (v : Value) : Except Fault (Option FunctionAnalysis) :=
  match v.intField? "functionId" with
  | none => .ok none
  | some id => do
    let paths ← pathsFrom 0 (v.field "paths").items
    return some
      { functionId := id
        functionName := v.textField "functionName" ""
        contractName := v.stringField? "contractName"
        intraPaths := v.intField "intraPaths" 0
        interPaths := v.intField "interPaths" 0
        feasiblePaths := v.intField "feasiblePaths" 0
        infeasiblePaths := v.intField "infeasiblePaths" 0
        returnPaths := v.intField "returnPaths" 0
        revertPaths := v.intField "revertPaths" 0
        paths := paths
        inlinedCallees := (v.objectsField "inlinedCallees").map fun callee =>
          (callee.textField "name" "", callee.intField "paths" 0) }

/-- The functions of an analysis. -/
def functionsOfWire : List Value → Except Fault (List FunctionAnalysis)
  | [] => .ok []
  | v :: rest => do
    let f ← FunctionAnalysis.ofWire v
    let fs ← functionsOfWire rest
    return f.toList ++ fs

/-- A function in the call graph, from an object with an id. -/
def CallNode.ofWire? (v : Value) : Option CallNode :=
  (v.intField? "id").map fun id =>
    { id := id
      name := v.textField "name" ""
      contractName := v.stringField? "contractName" }

/-- A call, from an object with a source. -/
def CallEdge.ofWire? (v : Value) : Option CallEdge :=
  (v.intField? "from").map fun source =>
    { source := source
      target := v.intField? "to"
      callSite := v.intField "callSite" (-1)
      isExternal := v.flagField "isExternal" false
      callKind := v.stringField? "callKind"
      memberName := v.stringField? "memberName" }

/-- A call graph; what is not an object is the empty graph. -/
def CallGraph.ofWire (v : Value) : CallGraph where
  nodes := (v.objectsField "nodes").filterMap CallNode.ofWire?
  edges := (v.objectsField "edges").filterMap CallEdge.ofWire?
  recursiveFunctions := (v.field "recursiveFunctions").items.filterMap Value.int?

/-- A write to a state variable, from an object with a variable id. -/
def StateWrite.ofWire? (v : Value) : Option StateWrite :=
  (v.intField? "varId").map fun id =>
    { varId := id
      varName := v.textField "varName" ""
      bound := Bound.ofWire v }

/-- The bounds of a result, from an object. -/
def returnRangeOfWire : Value → Option Bound
  | .obj fields => some (Bound.ofWire (.obj fields))
  | _ => none

/-- A summary, from an object with a function id. -/
def FunctionSummary.ofWire? (v : Value) : Option FunctionSummary :=
  (v.intField? "functionId").map fun id =>
    { functionId := id
      functionName := v.textField "functionName" ""
      contractName := v.stringField? "contractName"
      paramRanges := (v.objectsField "paramRanges").map fun param =>
        (param.intField "paramIndex" 0, Bound.ofWire param)
      returnRange := returnRangeOfWire (v.field "returnRange")
      stateWrites := (v.objectsField "stateWrites").filterMap StateWrite.ofWire? }

/-- A global range, from an object with a variable id. -/
def GlobalRange.ofWire? (v : Value) : Option GlobalRange :=
  (v.intField? "varId").map fun id =>
    { varId := id
      varName := v.textField "varName" ""
      contractName := v.stringField? "contractName"
      type := v.textField "typeString" ""
      bound := Bound.ofWire v }

/-- A reader or writer, from an object with a function id. -/
def FunctionRef.ofWire? (v : Value) : Option FunctionRef :=
  (v.intField? "funcId").map fun id =>
    { functionId := id
      functionName := v.textField "funcName" ""
      contractName := v.stringField? "contractName" }

/-- The accesses to a state variable, from an object with a variable id. -/
def StateAccess.ofWire? (v : Value) : Option StateAccess :=
  (v.intField? "varId").map fun id =>
    { varId := id
      varName := v.textField "varName" ""
      type := v.textField "typeString" ""
      contractId := v.intField "contractId" (-1)
      contractName := v.textField "contractName" ""
      readers := (v.objectsField "readers").filterMap FunctionRef.ofWire?
      writers := (v.objectsField "writers").filterMap FunctionRef.ofWire? }

/-- A decoded analysis. -/
def Analysis.ofDecoded (v : Value) : Except Fault Analysis :=
  if v.isObject then do
    let functions ← functionsOfWire (v.objectsField "functions")
    return {
      functions := functions
      callGraph := CallGraph.ofWire (v.field "callGraph")
      summaries := (v.objectsField "summaries").filterMap FunctionSummary.ofWire?
      globalRanges := (v.objectsField "globalRanges").filterMap GlobalRange.ofWire?
      stateAccesses := (v.objectsField "stateVarAnalysis").filterMap StateAccess.ofWire? }
  else .error (.rootNotObject .analysis)

/-- An analysis, decoded or as a text. -/
def Analysis.ofWire (v : Value) : Except Fault Analysis :=
  decodeDocument .analysis v >>= Analysis.ofDecoded

/-- A place of a source, from an array of three integers. -/
def LinePlace.ofWire? : Value → Option LinePlace
  | .arr [line, column, node] => do
    let line ← line.int?
    let column ← column.int?
    let node ← node.int?
    some ⟨line, column, node⟩
  | _ => none

/-- A decoded source; a missing text is empty. -/
def MappedSource.ofDecoded (v : Value) : Except Fault MappedSource :=
  if v.isObject then
    .ok
      { text := (v.stringField? "source").getD ""
        places := (v.field "lineMap").items.filterMap LinePlace.ofWire? }
  else .error (.rootNotObject .sourceMapping)

/-- A source, decoded or as a text. -/
def MappedSource.ofWire (v : Value) : Except Fault MappedSource :=
  decodeDocument .sourceMapping v >>= MappedSource.ofDecoded

end RangeAudit
