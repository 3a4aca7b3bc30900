import RangeAudit.Analysis.CallGraph
import RangeAudit.Analysis.Scope
import RangeAudit.Margin.Lines
import RangeAudit.Navigation.State
import RangeAudit.Session.Task

namespace RangeAudit

/-!
# Sessions

The state of one auditor's work: the loaded contracts, the analysis of one of them, the displayed
source, the data that were fetched for functions, the tasks that fetch them in the background, and the
views that were computed and are kept until the data change.

The engine is not part of the state. A call that needs it ends a turn by saying what it waits for, and
goes on in a later turn when the answer comes (`Session/Turn`).
-/

open Wire (Value)

/-- The displayed source, the node it belongs to, and the index of its places. -/
structure Display where
  node : Option Int := none
  source : MappedSource := {}
  index : NodeIndex := {}
  deriving DecidableEq, Inhabited

/-- The display of a source. -/
def Display.of (node : Option Int) (source : MappedSource) : Display where
  node := node
  source := source
  index := NodeIndex.ofPlaces source.places

/-- Under what a view is kept: the displayed node, the selected function and, where it matters, the
    selected path. -/
structure MemoKey where
  node : Option Int
  functionId : Option Int
  pathIndex : Option Int
  deriving DecidableEq, Inhabited

/-- The views that were computed. -/
structure Memo where
  risks : Entries MemoKey (Entries Int LineRisk) := []
  notes : Entries MemoKey (Entries Int (List RangeNote)) := []
  lines : Entries MemoKey (List MarginLine) := []
  deriving Inhabited

/-- The projections from which views are made, as far as a drill can plant faults in them. -/
inductive Projection where
  | lineRisks
  | rangeNotes
  | marginLines
  | riskSummary
  | stepLine
  | tracker
  deriving DecidableEq, Inhabited

/-- The analysis in use, and the contract that it was asked for. -/
structure LoadedAnalysis where
  contract : String
  analysis : Analysis
  deriving Inhabited

/-- One auditor's work. -/
structure Session where
  config : Config := {}
  contracts : Option (List Contract) := none
  selection : Selection := {}
  loaded : Option LoadedAnalysis := none
  display : Display := {}
  details : Entries Int (List PathTrace) := []
  flowGraphs : Entries Int (Option Value) := []
  /-- All tasks that were ever created, each at the position of its number. -/
  tasks : List Task := []
  /-- The tasks that are kept track of, so that they can be cancelled and waited for. -/
  fetches : List Fetch := []
  memo : Memo := {}
  planted : Entries Projection Fault := []
  deriving Inhabited

namespace Session

/-- Are contracts loaded? -/
def isLoaded (s : Session) : Bool :=
  s.contracts.isSome

/-- The number of the task that is created next. -/
def nextTicket (s : Session) : Nat :=
  s.tasks.length

/-- The loaded contracts; without any, nothing can be asked of the session. -/
def contractList (s : Session) : Except Fault (List Contract) :=
  match s.contracts with
  | some contracts => .ok contracts
  | none => .error .notLoaded

/-- The analysis in use. -/
def analysis? (s : Session) : Option Analysis :=
  s.loaded.map LoadedAnalysis.analysis

/-- The first contract with an id. -/
def contract? (s : Session) (id : Int) : Except Fault (Option Contract) :=
  s.contractList.map fun contracts => Contract.withId? contracts id

/-- The first contract that lists a function. -/
def ownerOf? (s : Session) (functionId : Int) : Except Fault (Option Contract) :=
  s.contractList.map fun contracts => Contract.ownerOf? contracts functionId

/-- Does the analysis in use have a summary of the function? -/
def hasSummary (s : Session) (functionId : Int) : Bool :=
  (s.analysis?.bind fun a => a.summary? functionId).isSome

/-! ### Finding functions -/

/-- Does a function fit what is asked for? A specification that is a numeral asks for an id, any other
    for a name. -/
def fits (spec name : String) (f : FunctionInfo) : Bool :=
  match Numeral.parse? spec with
  | some id => f.id == id
  | none => f.name == name

/-- The functions that fit `Contract.function`, a bare function name, or a function id. -/
def candidates (contracts : List Contract) (spec : String) : List (Contract × FunctionInfo) :=
  let (contractName, functionName) := Text.cutLast '.' spec
  (contracts.filter fun c => contractName.isEmpty || c.name == contractName).flatMap fun c =>
    (c.functions.filter (fits spec functionName)).map fun f => (c, f)

/-- The one function that fits a specification. -/
def findFunction (s : Session) (spec : String) : Except Fault (Contract × FunctionInfo) :=
  match s.contractList with
  | .error fault => .error fault
  | .ok contracts =>
    match candidates contracts spec with
    | [] => .error (.unknownFunction spec)
    | [found] => .ok found
    | found => .error (.ambiguousFunction spec (found.map fun pair => pair.1.name ++ "." ++ pair.2.name))

end Session

end RangeAudit
