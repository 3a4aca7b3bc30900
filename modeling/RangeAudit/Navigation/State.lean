import RangeAudit.Navigation.Event

namespace RangeAudit

/-!
# Navigation

The selection that the panels of the workbench share. An event changes the selection and says which
data have to be fetched; an event that does not fit the selection is ignored.

* `Selection.apply` : the selection after an event, and the requests;
* `Navigator` : a selection with subscribers, who are told of every change.
-/

/-- What is selected, and what the inspector shows. -/
structure Selection where
  contractId : Option Int := none
  functionId : Option Int := none
  pathIndex : Option Int := none
  stepIndex : Option Int := none
  mode : InspectorMode := .overview
  variableId : Option Int := none
  variableName : Option String := none
  line : Option Int := none
  deriving DecidableEq, Inhabited

/-- Data that a selection calls for. The source of a function names the function, the source of a
    contract does not. -/
inductive Request where
  | source (nodeId : Int) (functionId : Option Int)
  | flowGraph (functionId : Int)
  | pathDetail (functionId : Int)
  deriving DecidableEq, Inhabited

namespace Selection

/-- The step that is shown: a step counts only while a path is selected and the inspector shows it. -/
def effectiveStep (s : Selection) : Option Int :=
  if s.pathIndex.isSome && s.mode == .path then s.stepIndex else none

/-- The selection of a function: everything below the contract starts anew. -/
def atFunction (s : Selection) (functionId : Int) (contractId : Option Int) : Selection where
  contractId := contractId <|> s.contractId
  functionId := some functionId

/-- The requests of the selection of a function. Details are fetched for functions that have a
    summary. -/
def functionRequests (hasSummary : Int → Bool) (functionId : Int) : List Request :=
  [.source functionId (some functionId), .flowGraph functionId] ++
    if hasSummary functionId then [.pathDetail functionId] else []

/-- The selection after an event, and the requests that the event makes. -/
def apply (hasSummary : Int → Bool) (s : Selection) : NavigationEvent → Selection × List Request
  | .selectContract id => ({ contractId := some id }, [.source id none])
  | .selectFunction id contract => (s.atFunction id contract, functionRequests hasSummary id)
  | .navigateToFunction id contract => (s.atFunction id contract, functionRequests hasSummary id)
  | .selectPath k =>
    if k < 0 || s.functionId.isNone then (s, [])
    else ({ s with pathIndex := some k, stepIndex := some 0, mode := .path }, [])
  | .highlightStep k =>
    if k < 0 || s.pathIndex.isNone then (s, []) else ({ s with stepIndex := some k }, [])
  | .backToOverview => ({ s with pathIndex := none, stepIndex := none, mode := .overview }, [])
  | .switchMode mode =>
    if mode == .path && s.pathIndex.isNone then (s, []) else ({ s with mode := mode }, [])
  | .inspectVariable id name =>
    ({ s with mode := .variableDetail, variableId := id, variableName := name }, [])
  | .selectLine line => ({ s with line := some line }, [])

end Selection

/-- A selection with subscribers. A subscription is cancelled by its subscriber. -/
structure Navigator (σ : Type) where
  selection : Selection := {}
  subscribers : List σ := []

namespace Navigator

variable {σ : Type} [DecidableEq σ]

/-- One more subscription. -/
def subscribe (n : Navigator σ) (subscriber : σ) : Navigator σ :=
  { n with subscribers := n.subscribers ++ [subscriber] }

/-- Without the first subscription of the subscriber. -/
def cancel (n : Navigator σ) (subscriber : σ) : Navigator σ :=
  { n with subscribers := n.subscribers.erase subscriber }

/-- The initial selection; every subscriber is told. -/
def reset (n : Navigator σ) : Navigator σ × List σ :=
  ({ n with selection := {} }, n.subscribers)

/-- The selection after an event, with its requests and the subscribers that are told: all of them if
    the selection changed. -/
def dispatch (hasSummary : Int → Bool) (n : Navigator σ) (event : NavigationEvent) :
    Navigator σ × List Request × List σ :=
  let (selection, requests) := n.selection.apply hasSummary event
  ({ n with selection := selection }, requests,
    if selection = n.selection then [] else n.subscribers)

end Navigator

end RangeAudit
