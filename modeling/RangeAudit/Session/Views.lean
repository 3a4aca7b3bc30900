import RangeAudit.Session.State

namespace RangeAudit

/-!
# Views

What the panels show of a session. Every view can be computed from the state alone; three of them are
kept until the data change, because many panels ask for them.

* `Session.paths`, `Session.selectedPath` : the paths of the selected function and the selected one;
* `Session.riskMap`, `Session.rangeNotes`, `Session.marginLines` : the kept views;
* `undecorated` : a view whose decorations cannot be computed shows the data without them.
-/

open Wire (Value)

/-- A view in which a fault of the data leaves the decorations out; other faults remain. -/
def undecorated (plain : α) : Except Fault α → Except Fault α
  | .ok view => .ok view
  | .error fault => if fault.kind.absorbed then .ok plain else .error fault

/-- The view kept under a key, else the computed one, which is then kept. What failed is not kept. -/
def recalled (kept : Entries MemoKey α) (key : MemoKey) (compute : Unit → Except Fault α) :
    Except Fault α × Entries MemoKey α :=
  match kept.find? key with
  | some view => (.ok view, kept)
  | none =>
    match compute () with
    | .ok view => (.ok view, kept.put key view)
    | .error fault => (.error fault, kept)

namespace Session

/-! ### Paths -/

/-- The paths of the selected function: in detail if they were fetched, else from the analysis. -/
def knownPaths (s : Session) : Option (List PathTrace) := do
  let id ← s.selection.functionId
  match s.details.find? id with
  | some paths => some paths
  | none => ((← s.analysis?).function? id).map FunctionAnalysis.paths

/-- What the analysis found out about the selected function. -/
def functionAnalysis (s : Session) : Except Fault (Option FunctionAnalysis) :=
  s.contractList.map fun _ => do (← s.analysis?).function? (← s.selection.functionId)

/-- The paths of the selected function; nothing without a function. Paths from the analysis can only
    be asked for while contracts are loaded. -/
def paths (s : Session) : Except Fault (Option (List PathTrace)) :=
  match s.selection.functionId with
  | none => .ok none
  | some id => if s.details.has id then .ok s.knownPaths else s.contractList.map fun _ => s.knownPaths

/-- The selected one of some paths; a position outside them selects nothing. -/
def pathAmong (s : Session) (paths : Option (List PathTrace)) : Option PathTrace := do
  let k ← s.selection.pathIndex
  if k < 0 then none else (← paths)[k.toNat]?

/-- The selected path. -/
def selectedPath (s : Session) : Except Fault (Option PathTrace) :=
  s.paths.map s.pathAmong

/-- The control-flow graph of the selected function, if it was fetched and there is one. -/
def flowGraph (s : Session) : Option Value := do
  (← s.flowGraphs.find? (← s.selection.functionId))

/-! ### Decorated views -/

/-- The result of a projection, unless a drill planted a fault in it. -/
def projected (s : Session) (projection : Projection) (x : α) : Except Fault α :=
  match s.planted.find? projection with
  | some fault => .error fault
  | none => .ok x

/-- Under what a view is kept now. -/
def memoKey (s : Session) (pathIndex : Option Int) : MemoKey where
  node := s.display.node
  functionId := s.selection.functionId
  pathIndex := pathIndex

/-- The risks of the displayed lines, computed anew. -/
def computedRisks (s : Session) : Except Fault (Entries Int LineRisk) :=
  s.projected .lineRisks (lineRisks s.knownPaths s.display.index s.display.source.text s.config)

/-- The domain changes beside the displayed lines, computed anew. -/
def computedNotes (s : Session) : Except Fault (Entries Int (List RangeNote)) :=
  s.projected .rangeNotes
    (RangeAudit.rangeNotes (activePath? (s.knownPaths.getD []) s.selection.pathIndex) s.display.index
      s.config)

/-- The displayed lines with their margins, computed anew. -/
def computedLines (s : Session) : Except Fault (List MarginLine) :=
  let analysis := s.analysis?.getD {}
  s.projected .marginLines
    (RangeAudit.marginLines s.display.source.text s.knownPaths s.display.index s.selection.pathIndex
      (analysis.scopedAccesses s.selection.functionId) (analysis.scopedRanges s.selection.functionId)
      s.config)

/-- The risks of the displayed lines. They do not depend on the selected path. -/
def riskMap (s : Session) : Except Fault (Entries Int LineRisk) × Session :=
  match s.contracts with
  | none => (.error .notLoaded, s)
  | some _ =>
    let (risks, kept) := recalled s.memo.risks (s.memoKey none) fun _ => s.computedRisks
    (undecorated [] risks, { s with memo := { s.memo with risks := kept } })

/-- The domain changes beside the displayed lines. -/
def rangeNotes (s : Session) : Except Fault (Entries Int (List RangeNote)) × Session :=
  match s.contracts with
  | none => (.error .notLoaded, s)
  | some _ =>
    let (notes, kept) := recalled s.memo.notes (s.memoKey s.selection.pathIndex) fun _ => s.computedNotes
    (undecorated [] notes, { s with memo := { s.memo with notes := kept } })

/-- The displayed lines with their margins. -/
def marginLines (s : Session) : Except Fault (List MarginLine) × Session :=
  match s.contracts with
  | none => (.error .notLoaded, s)
  | some _ =>
    let (lines, kept) := recalled s.memo.lines (s.memoKey s.selection.pathIndex) fun _ => s.computedLines
    (undecorated (plainLines s.display.source.text) lines,
      { s with memo := { s.memo with lines := kept } })

/-- A decorated view that is not kept. -/
def decorated (s : Session) (plain : α) (view : Except Fault α) : Except Fault α :=
  match s.contracts with
  | none => .error .notLoaded
  | some _ => undecorated plain view

/-- The tracker of a path. -/
def tracker (s : Session) (path : PathTrace) : Except Fault Tracker :=
  s.projected .tracker { path := path, digits := s.config.shortDigits }

/-- The domain changes of each step of the selected path, judged by width only. -/
def stepDiffs (s : Session) : Except Fault (List (List VarDiff)) :=
  s.decorated [] <|
    match s.pathAmong s.knownPaths with
    | none => .ok []
    | some path => (s.tracker path).map Tracker.allStepDiffs

/-- The domains after the step that is shown. -/
def watch (s : Session) : Except Fault (List WatchRow) :=
  s.decorated [] <|
    match s.pathAmong s.knownPaths, s.selection.effectiveStep with
    | some path, some k => (s.tracker path).map fun t => t.watch k
    | _, _ => .ok []

/-- The line of the step that is shown. -/
def highlightedLine (s : Session) : Except Fault (Option Int) :=
  s.decorated none <|
    s.projected .stepLine
      (stepLine? (s.pathAmong s.knownPaths) s.selection.effectiveStep s.display.index
        s.display.source.text)

/-- How often each kind of finding occurs on the feasible paths. -/
def riskSummary (s : Session) : Except Fault (Entries String Nat) :=
  s.decorated [] <| s.projected .riskSummary (RangeAudit.riskSummary (s.knownPaths.getD []))

/-! ### Context views -/

/-- The functions that call the selected one. -/
def callers (s : Session) : List FunctionLink :=
  match s.selection.functionId, s.analysis? with
  | some id, some a => a.callGraph.callers (some id)
  | _, _ => []

/-- The functions that the selected one calls. -/
def callees (s : Session) : List FunctionLink :=
  match s.selection.functionId, s.analysis? with
  | some id, some a => a.callGraph.callees (some id)
  | _, _ => []

/-- The part of the call graph that the selected function reaches. -/
def callGraph (s : Session) : Except Fault CallGraph :=
  s.contractList.map fun _ => (s.analysis?.getD {}).callGraph.below s.selection.functionId

/-- The state variables that the selected function touches. -/
def stateAccesses (s : Session) : Except Fault (List StateAccess) :=
  s.contractList.map fun _ => (s.analysis?.getD {}).scopedAccesses s.selection.functionId

/-- The global ranges of the variables that the selected function touches. -/
def globalRanges (s : Session) : Except Fault (List GlobalRange) :=
  s.contractList.map fun _ => (s.analysis?.getD {}).scopedRanges s.selection.functionId

/-- Why a name is not the name of a view. What a session holds cannot be computed from it. -/
def notAView (s : Session) (name : String) : Fault :=
  let held : Entries String String :=
    [("loaded", "bool"), ("contracts", "list"), ("state", "NavigationState"), ("source", "SourceWithMapping"),
      ("analysis", if s.analysis?.isSome then "AnalysisResult" else "NoneType"),
      ("line_index", "NodeLineIndex"), ("config", "WorkbenchConfig"), ("navigation", "NavigationStateMachine")]
  match held.find? name, s.contractList with
  | none, _ => .noMember "AuditSession" name
  | some "list", .error fault => fault
  | some type, _ => .notCallable type

end Session

end RangeAudit
