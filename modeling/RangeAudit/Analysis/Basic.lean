import RangeAudit.Trace.Basic

namespace RangeAudit

/-!
# Contracts and their analyses

The records that an analysis delivers: the contracts with their functions and state variables, and
for one contract the explored functions, the call graph, the summaries, the global ranges and the
accesses to state variables.
-/

/-- A function as a contract lists it. -/
structure FunctionInfo where
  id : Int
  name : String
  visibility : String := "public"
  stateMutability : String := "nonpayable"
  isConstructor : Bool := false
  kind : String := "function"
  hasBody : Bool := true
  deriving DecidableEq, Inhabited

/-- The name to show; functions without a name are shown by what they are. -/
def FunctionInfo.displayName (f : FunctionInfo) : String :=
  if !f.name.isEmpty then f.name else if f.isConstructor then "constructor" else f.kind

/-- A state variable as a contract lists it. -/
structure StateVariable where
  id : Int
  name : String
  type : String := ""
  visibility : String := "internal"
  constant : Bool := false
  deriving DecidableEq, Inhabited

/-- A contract. -/
structure Contract where
  id : Int
  name : String
  kind : String := "contract"
  isAbstract : Bool := false
  sourceFile : String := ""
  functions : List FunctionInfo := []
  stateVariables : List StateVariable := []
  deriving DecidableEq, Inhabited

namespace Contract

/-- The first function with an id. -/
def function? (c : Contract) (id : Int) : Option FunctionInfo :=
  c.functions.find? fun f => f.id == id

/-- Does the contract list a function with the id? -/
def lists (c : Contract) (id : Int) : Bool :=
  (c.function? id).isSome

/-- The first contract with an id. -/
def withId? (contracts : List Contract) (id : Int) : Option Contract :=
  contracts.find? fun c => c.id == id

/-- The first contract with a name. -/
def named? (contracts : List Contract) (name : String) : Option Contract :=
  contracts.find? fun c => c.name == name

/-- The first contract that lists a function. -/
def ownerOf? (contracts : List Contract) (functionId : Int) : Option Contract :=
  contracts.find? fun c => c.lists functionId

end Contract

/-- What the analysis found out about one function. -/
structure FunctionAnalysis where
  functionId : Int
  functionName : String
  contractName : Option String := none
  intraPaths : Int := 0
  interPaths : Int := 0
  feasiblePaths : Int := 0
  infeasiblePaths : Int := 0
  returnPaths : Int := 0
  revertPaths : Int := 0
  paths : List PathTrace := []
  inlinedCallees : List (String × Int) := []
  deriving DecidableEq, Inhabited

/-- A name with the contract that it belongs to, unless that is absent or empty. -/
def qualify (contractName : Option String) (name : String) : String :=
  match contractName with
  | some contract => if contract.isEmpty then name else contract ++ "." ++ name
  | none => name

/-- A function in the call graph. -/
structure CallNode where
  id : Int
  name : String
  contractName : Option String := none
  deriving DecidableEq, Inhabited

/-- The name of a function in the call graph, with its contract. -/
def CallNode.qualifiedName (n : CallNode) : String :=
  qualify n.contractName n.name

/-- A call; calls out of the analysed code have no target. -/
structure CallEdge where
  source : Int
  target : Option Int
  callSite : Int := -1
  isExternal : Bool := false
  callKind : Option String := none
  memberName : Option String := none
  deriving DecidableEq, Inhabited

/-- Which functions call which. -/
structure CallGraph where
  nodes : List CallNode := []
  edges : List CallEdge := []
  recursiveFunctions : List Int := []
  deriving DecidableEq, Inhabited

/-- The range that a function may write to a state variable. -/
structure StateWrite where
  varId : Int
  varName : String
  bound : Bound := {}
  deriving DecidableEq, Inhabited

/-- The ranges of a function's parameters, result and writes. -/
structure FunctionSummary where
  functionId : Int
  functionName : String
  contractName : Option String := none
  paramRanges : List (Int × Bound) := []
  returnRange : Option Bound := none
  stateWrites : List StateWrite := []
  deriving DecidableEq, Inhabited

/-- The range of a state variable over the whole contract. -/
structure GlobalRange where
  varId : Int
  varName : String
  contractName : Option String := none
  type : String := ""
  bound : Bound := {}
  deriving DecidableEq, Inhabited

/-- Is the variable without any bound? -/
def GlobalRange.unrestricted (g : GlobalRange) : Bool :=
  g.bound.isAbsent

/-- A function that reads or writes a state variable. -/
structure FunctionRef where
  functionId : Int
  functionName : String
  contractName : Option String := none
  deriving DecidableEq, Inhabited

/-- The name of a reader or writer, with its contract. -/
def FunctionRef.qualifiedName (r : FunctionRef) : String :=
  qualify r.contractName r.functionName

/-- The readers and writers of a state variable. -/
structure StateAccess where
  varId : Int
  varName : String
  type : String := ""
  contractId : Int := -1
  contractName : String := ""
  readers : List FunctionRef := []
  writers : List FunctionRef := []
  deriving DecidableEq, Inhabited

/-- Does the function read or write the variable? -/
def StateAccess.touchedBy (a : StateAccess) (functionId : Int) : Bool :=
  (a.readers ++ a.writers).any fun ref => ref.functionId == functionId

/-- The analysis of one contract. -/
structure Analysis where
  functions : List FunctionAnalysis := []
  callGraph : CallGraph := {}
  summaries : List FunctionSummary := []
  globalRanges : List GlobalRange := []
  stateAccesses : List StateAccess := []
  deriving DecidableEq, Inhabited

namespace Analysis

/-- What was found out about a function. -/
def function? (a : Analysis) (id : Int) : Option FunctionAnalysis :=
  a.functions.find? fun f => f.functionId == id

/-- The summary of a function. -/
def summary? (a : Analysis) (id : Int) : Option FunctionSummary :=
  a.summaries.find? fun s => s.functionId == id

end Analysis

/-- A place of a source text and the syntax node that starts there. -/
structure LinePlace where
  line : Int
  column : Int
  node : Int
  deriving DecidableEq, Inhabited

/-- A source text with the places of its syntax nodes. -/
structure MappedSource where
  text : String := ""
  places : List LinePlace := []
  deriving DecidableEq, Inhabited

end RangeAudit
