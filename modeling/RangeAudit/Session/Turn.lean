import RangeAudit.Session.State

namespace RangeAudit

/-!
# Turns

A call on a session runs in turns. A turn is a change of the state that nothing can interrupt; it ends
when the call is finished, has failed, or waits for the engine. Between two turns of a call, turns of
other calls may run, so each turn looks at the state anew.

* `Session.begin` : the first turn of a command;
* `Session.resume` : the next turn of a waiting call, with the engine's answer;
* `Session.runTask` : the next turn of a background task;
* `Session.hear`, `Session.discard` : the engine's answer to a task, and the note that a task has ended;
* `Session.attend`, `Session.settle` : all that happens to a task from the engine's answer on.

A session keeps track of its background tasks until they have ended. Unloading it cancels those that it
keeps track of, and loses track of them.
-/

open Wire (Value)

/-- What a waiting call will go on with. -/
inductive Waiting where
  /-- Loading waits for the contracts. -/
  | contracts
  /-- The selection of a contract waits for its analysis; the requests are made afterwards. -/
  | contractAnalysis (contract : Contract) (requests : List Request)
  /-- The selection of a function waits for the analysis of its owner. -/
  | ownerAnalysis (owner : Contract) (functionId : Int)
  /-- A selection waits for a source; the other requests are made afterwards. -/
  | source (nodeId : Int) (functionId : Option Int) (requests : List Request)
  deriving DecidableEq, Inhabited

/-- What a waiting call asks the engine for. -/
abbrev Waiting.query : Waiting → Query
  | contracts => .contracts
  | contractAnalysis contract _ => .analysis contract.name
  | ownerAnalysis owner _ => .analysis owner.name
  | source nodeId _ _ => .source nodeId

/-- How a call stands after a turn. -/
inductive Turn where
  | finished
  | waiting (w : Waiting)
  | failed (fault : Fault)
  deriving Inhabited

/-- What a session can be told to do. -/
inductive Command where
  | load
  | dispatch (event : NavigationEvent)
  deriving DecidableEq, Inhabited

namespace Session

/-! ### Changes of the state -/

/-- Display a source; kept views no longer hold. -/
def present (s : Session) (node : Option Int) (source : MappedSource) : Session :=
  { s with display := Display.of node source, memo := {} }

/-- Use an analysis. The data of functions belong to the analysis before it, and kept views no longer
    hold. -/
def useAnalysis (s : Session) (contract : String) (a : Analysis) : Session :=
  { s with loaded := some ⟨contract, a⟩, details := [], flowGraphs := [], memo := {} }

/-- Forget everything but the settings, and cancel the tasks that are kept track of. -/
def unload (s : Session) : Session :=
  { s with
    tasks := s.tasks.map fun task => if task.fetch ∈ s.fetches then task.cancel else task
    contracts := none
    selection := {}
    loaded := none
    display := Display.of none {}
    details := []
    flowGraphs := []
    fetches := []
    memo := {} }

/-- Create a task for a background fetch, and keep track of it. -/
def spawn (s : Session) (aim : FetchAim) (functionId : Int) : Session :=
  { s with
    tasks := s.tasks ++ [.ofFetch ⟨s.nextTicket, aim, functionId⟩]
    fetches := s.fetches ++ [⟨s.nextTicket, aim, functionId⟩] }

/-- Apply an event to the selection. -/
def navigate (s : Session) (event : NavigationEvent) : Session × List Request :=
  let (selection, requests) := s.selection.apply s.hasSummary event
  ({ s with selection := selection }, requests)

/-- Is what was asked for still wanted? The data of a function are wanted while it is selected, the
    source of a contract while the contract is selected and no function is. -/
def wants (s : Session) (functionId : Option Int) (nodeId : Int) : Bool :=
  match functionId with
  | some id => s.selection.functionId == some id
  | none => s.selection.functionId.isNone && s.selection.contractId == some nodeId

/-- Must the analysis of a contract be fetched? Not if it is in use, nor if the contract cannot be
    analysed. -/
def needsAnalysis (s : Session) (c : Contract) : Bool :=
  s.loaded.all (fun loaded => loaded.contract != c.name) && c.analyzable

/-! ### Turns of calls -/

/-- Make requests in order: a source is waited for, other data are fetched in the background. -/
def perform (s : Session) : List Request → Turn × Session
  | [] => (.finished, s)
  | .source nodeId functionId :: rest => (.waiting (.source nodeId functionId rest), s)
  | .flowGraph functionId :: rest => perform (s.spawn .flowGraph functionId) rest
  | .pathDetail functionId :: rest => perform (s.spawn .detail functionId) rest

/-- Select a contract. The selection changes before its analysis is there. -/
def selectContract (s : Session) (contracts : List Contract) (id : Int) : Turn × Session :=
  match Contract.withId? contracts id with
  | none => (.failed (.unknownContract id), s)
  | some c =>
    let (s, requests) := s.navigate (.selectContract id)
    if s.needsAnalysis c then (.waiting (.contractAnalysis c requests), s) else s.perform requests

/-- Select a function whose owner's analysis, if any, is there. -/
def openFunction (s : Session) (owner : Option Contract) (functionId : Int) : Turn × Session :=
  let (s, requests) := s.navigate (.selectFunction functionId (owner.map Contract.id))
  s.perform requests

/-- Select a function. The selection changes after the analysis of its owner is there. -/
def selectFunction (s : Session) (contracts : List Contract) (functionId : Int) : Turn × Session :=
  match Contract.ownerOf? contracts functionId with
  | none => s.openFunction none functionId
  | some owner =>
    if s.needsAnalysis owner then (.waiting (.ownerAnalysis owner functionId), s)
    else s.openFunction (some owner) functionId

/-- The first turn of a command. -/
def begin (s : Session) : Command → Turn × Session
  | .load => (.waiting .contracts, s)
  | .dispatch event =>
    match s.contracts with
    | none => (.failed .notLoaded, s)
    | some contracts =>
      match event with
      | .selectContract id => s.selectContract contracts id
      | .selectFunction id _ | .navigateToFunction id _ => s.selectFunction contracts id
      | _ => (.finished, (s.navigate event).1)

/-- The next turn of a waiting call. A fault ends the call and leaves the state as it is. -/
def resume (s : Session) : (w : Waiting) → Except Fault w.query.Answer → Turn × Session
  | _, .error fault => (.failed fault, s)
  | .contracts, .ok contracts => (.finished, { s.unload with contracts := some contracts })
  | .contractAnalysis c requests, .ok a => (s.useAnalysis c.name a).perform requests
  | .ownerAnalysis owner functionId, .ok a =>
    (s.useAnalysis owner.name a).openFunction (some owner) functionId
  | .source nodeId functionId requests, .ok source =>
    (if s.wants functionId nodeId then s.present (some nodeId) source else s).perform requests

/-! ### Background tasks -/

/-- Keep the control-flow graph of a function. -/
def keepFlowGraph (s : Session) (functionId : Int) (graph : Option Value) : Session :=
  { s with flowGraphs := s.flowGraphs.put functionId graph }

/-- Keep the detailed paths of a function; kept views no longer hold. -/
def keepDetail (s : Session) (functionId : Int) (paths : List PathTrace) : Session :=
  { s with details := s.details.put functionId paths, memo := {} }

/-- What the answer to a wanted fetch does. A fault is passed over. -/
def accept (s : Session) : (f : Fetch) → Except Fault f.query.Answer → Session
  | _, .error _ => s
  | ⟨_, .flowGraph, functionId⟩, .ok graph =>
    if s.wants (some functionId) functionId then s.keepFlowGraph functionId graph else s
  | ⟨_, .detail, functionId⟩, .ok paths =>
    if s.wants (some functionId) functionId then s.keepDetail functionId paths else s

/-- Put a task in the place of the one with the same number. -/
def putTask (s : Session) (ticket : Nat) (task : Task) : Session :=
  { s with tasks := s.tasks.set ticket task }

/-- The next turn of a task, if it has one. A cancellation ends it: it is no fault, so it is not passed over.
    The first turn asks the engine, and the turn after the answer accepts it. -/
def runTask (s : Session) (ticket : Nat) : Session :=
  match s.tasks[ticket]? with
  | none => s
  | some task =>
    if task.isDone then s
    else if task.cancelRequested then s.putTask ticket { task with phase := .cancelled }
    else
      match task.phase with
      | .created => s.putTask ticket { task with phase := .waiting }
      | .answered answer => (s.putTask ticket task.finish).accept task.fetch answer
      | _ => s

/-- The engine answers what a task has asked for. -/
def hear (s : Session) (ticket : Nat) (answers : Oracle) : Session :=
  match s.tasks[ticket]? with
  | none => s
  | some task => s.putTask ticket (task.hear (answers task.fetch.query))

/-- Lose track of a task that has ended. -/
def discard (s : Session) (ticket : Nat) : Session :=
  match s.tasks[ticket]? with
  | none => s
  | some task => if task.isDone then { s with fetches := s.fetches.erase task.fetch } else s

/-- Does a task wait for the engine, and is it to go on? -/
def isWaiting (s : Session) (ticket : Nat) : Bool :=
  (s.tasks[ticket]?).any Task.isWaiting

/-- What happens to a task that has asked the engine: the answer, the turn after it, and the note that it has
    ended. -/
def attend (s : Session) (ticket : Nat) (answers : Oracle) : Session :=
  ((s.hear ticket answers).runTask ticket).discard ticket

/-- A task has come to its end, and is not kept track of any more. -/
def close (s : Session) (f : Fetch) : Session :=
  { s with tasks := s.tasks.modify f.ticket Task.finish, fetches := s.fetches.erase f }

/-- All turns of a task in one: what becomes of it is that its answer is accepted, if it is kept track of. -/
def settle (s : Session) (f : Fetch) (answer : Except Fault f.query.Answer) : Session :=
  if f ∈ s.fetches then (s.close f).accept f answer else s

end Session

end RangeAudit
