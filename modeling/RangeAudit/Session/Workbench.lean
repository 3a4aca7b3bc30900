import RangeAudit.Session.Turn

namespace RangeAudit

/-!
# Workbenches

A session at an engine that answers at once. A call in the foreground runs to its end; what it fetches
in the background is queued, and the queue is run first in, first out, when the workbench is told to.

Methods of the engine can be held: a background job that calls a held method is parked before the call
reaches the engine, until everything is released. It keeps the method as it was when it was called.

* `drive` : the turns of one call, until it ends or asks for a held method;
* `Workbench.call` : a call in the foreground;
* `Workbench.dispatchInBackground`, `Workbench.drain` : calls in the background;
* `Workbench.release` : the queue is run, then the parked jobs go on, then what they have queued is run.
-/

/-! ### The turns of one call -/

/-- How often a waiting call asks the engine at most, this time included. -/
def Waiting.depth : Waiting → Nat
  | contracts => 1
  | contractAnalysis _ requests => requests.length + 1
  | ownerAnalysis _ _ => 4
  | source _ _ requests => requests.length + 1

/-- How often a call asks the engine at most from now on. -/
def Turn.depth : Turn → Nat
  | finished => 0
  | waiting w => w.depth
  | failed _ => 0

/-- Making requests asks the engine at most once for each. -/
theorem Session.depth_perform (s : Session) (requests : List Request) :
    (s.perform requests).1.depth ≤ requests.length := by
  induction requests generalizing s with
  | nil => simp [perform, Turn.depth]
  | cons request rest ih =>
    cases request with
    | source node functionId => simp [perform, Turn.depth, Waiting.depth]
    | flowGraph functionId => exact Nat.le_succ_of_le (ih _)
    | pathDetail functionId => exact Nat.le_succ_of_le (ih _)

/-- Opening a function makes at most three requests. -/
theorem Session.depth_openFunction (s : Session) (owner : Option Contract) (functionId : Int) :
    (s.openFunction owner functionId).1.depth ≤ 3 := by
  refine Nat.le_trans (Session.depth_perform _ _) ?_
  simp only [Selection.functionRequests]
  split <;> simp

/-- Every turn brings a call nearer to its end. -/
theorem Session.depth_resume (s : Session) (w : Waiting) (answer : Except Fault w.query.Answer) :
    (s.resume w answer).1.depth < w.depth := by
  cases w with
  | contracts => cases answer <;> simp [resume, Turn.depth, Waiting.depth]
  | contractAnalysis c requests =>
    cases answer with
    | error fault => simp [resume, Turn.depth, Waiting.depth]
    | ok a => exact Nat.lt_succ_of_le (depth_perform _ _)
  | ownerAnalysis owner functionId =>
    cases answer with
    | error fault => simp [resume, Turn.depth, Waiting.depth]
    | ok a => exact Nat.lt_succ_of_le (depth_openFunction _ _ _)
  | source node functionId requests =>
    cases answer with
    | error fault => simp [resume, Turn.depth, Waiting.depth]
    | ok a => exact Nat.lt_succ_of_le (depth_perform _ _)

/-- The turns of a call, until it is finished, has failed, or asks for a held method. -/
def drive (held : List EngineMethod) (e : Engine) (s : Session) (turn : Turn) :
    Turn × Engine × Session :=
  match turn with
  | .finished => (.finished, e, s)
  | .failed fault => (.failed fault, e, s)
  | .waiting w =>
    if w.query.method ∈ held then (.waiting w, e, s)
    else
      let served := e.serve w.query
      let next := s.resume w served.1
      drive held served.2 next.2 next.1
termination_by turn.depth
decreasing_by exact Session.depth_resume _ _ _

/-! ### Workbenches -/

/-- A job of the queue: a command, known by its number, or a fetch. -/
inductive Job where
  | command (number : Nat) (command : Command)
  | fetch (fetch : Fetch)
  deriving DecidableEq, Inhabited

/-- A job that waits at a held method. The method was taken with the fault that was planted in it, if
    there was one. -/
inductive Parked where
  | command (number : Nat) (waiting : Waiting) (taken : Option Fault)
  | fetch (fetch : Fetch) (taken : Option Fault)
  deriving Inhabited

/-- How a call ended. -/
abbrev Outcome := Except Fault Unit

/-- A session at its engine, with the jobs that are under way. -/
structure Workbench where
  engine : Engine
  session : Session := {}
  held : List EngineMethod := []
  queue : List Job := []
  parked : List Parked := []
  /-- How the background commands ended that were started since the last report. -/
  outcomes : List (Option Outcome) := []
  deriving Inhabited

namespace Workbench

/-- A workbench at which nothing is loaded. -/
def fresh (engine : Engine) (config : Config) : Workbench :=
  { engine := engine, session := { config := config } }

/-- Go on with a session: the fetches that it has sent out meanwhile are queued. -/
def advance (b : Workbench) (e : Engine) (s : Session) : Workbench :=
  let sent := s.fetches.filter fun f => b.session.nextTicket ≤ f.ticket
  { b with engine := e, session := s, queue := b.queue ++ sent.map Job.fetch }

/-- A call in the foreground. It does not stop at held methods. -/
def call (b : Workbench) (command : Command) : Outcome × Workbench :=
  let first := b.session.begin command
  match drive [] b.engine first.2 first.1 with
  | (.failed fault, e, s) => (.error fault, b.advance e s)
  | (_, e, s) => (.ok (), b.advance e s)

/-- Load the contracts. -/
def load (b : Workbench) : Outcome × Workbench :=
  b.call .load

/-- Dispatch an event in the foreground. -/
def dispatch (b : Workbench) (event : NavigationEvent) : Outcome × Workbench :=
  b.call (.dispatch event)

/-- Forget everything but the settings. -/
def unload (b : Workbench) : Workbench :=
  { b with session := b.session.unload }

/-- Apply an event to the selection without fetching anything. -/
def navigate (b : Workbench) (event : NavigationEvent) : List Request × Workbench :=
  let (session, requests) := b.session.navigate event
  (requests, { b with session := session })

/-! ### Background jobs -/

/-- Note how a background command ended. -/
def conclude (b : Workbench) (number : Nat) (outcome : Outcome) : Workbench :=
  { b with outcomes := b.outcomes.set number (some outcome) }

/-- Go on with a background command. -/
def pursue (b : Workbench) (number : Nat) (s : Session) (turn : Turn) : Workbench :=
  match drive b.held b.engine s turn with
  | (.finished, e, s) => (b.advance e s).conclude number (.ok ())
  | (.failed fault, e, s) => (b.advance e s).conclude number (.error fault)
  | (.waiting w, e, s) =>
    let b := b.advance e s
    { b with parked := b.parked ++ [.command number w (e.plantedIn w.query.method)] }

/-- Go on with a task that has asked a method of the engine, unless it was cancelled meanwhile. A task sends
    out no fetches. -/
def finishFetch (b : Workbench) (f : Fetch) (taken : Option Fault) : Workbench :=
  if b.session.isWaiting f.ticket then
    { b with
      engine := (b.engine.serveAs taken f.query).2
      session := b.session.attend f.ticket fun query => (b.engine.serveAs taken query).1 }
  else { b with session := (b.session.runTask f.ticket).discard f.ticket }

/-- Run a task from its first turn as far as the held methods allow. -/
def runFetch (b : Workbench) (f : Fetch) : Workbench :=
  let taken := b.engine.plantedIn f.query.method
  let begun := { b with session := b.session.runTask f.ticket }
  if begun.session.isWaiting f.ticket ∧ f.query.method ∈ b.held then
    { begun with parked := b.parked ++ [.fetch f taken] }
  else begun.finishFetch f taken

/-- Run a job of the queue. -/
def runJob (b : Workbench) : Job → Workbench
  | .command number command =>
    let first := b.session.begin command
    b.pursue number first.2 first.1
  | .fetch f => b.runFetch f

/-- Run the jobs that are in the queue now. -/
def runQueued (b : Workbench) : Workbench :=
  b.queue.foldl runJob { b with queue := [] }

/-- Run the queue until it is empty. The jobs that are queued meanwhile are fetches, and a fetch
    queues nothing, so the second pass is the last. -/
def drain (b : Workbench) : Workbench :=
  b.runQueued.runQueued

/-- Dispatch an event in the background, and run the queue as far as the held methods allow. -/
def dispatchInBackground (b : Workbench) (event : NavigationEvent) : Workbench :=
  drain { b with
    queue := b.queue ++ [.command b.outcomes.length (.dispatch event)]
    outcomes := b.outcomes ++ [none] }

/-- Hold methods of the engine, in addition to those that are held. -/
def hold (b : Workbench) (methods : List EngineMethod) : Workbench :=
  { b with held := b.held ++ methods }

/-- Go on with a parked job: the call that was held back is answered by the method as it was taken. -/
def unpark (b : Workbench) : Parked → Workbench
  | .command number w taken =>
    let (answer, e) := b.engine.serveAs taken w.query
    let (turn, s) := b.session.resume w answer
    { b with engine := e }.pursue number s turn
  | .fetch f taken => b.finishFetch f taken

/-- Hold nothing any more: the queue is run, then the parked jobs go on in the order in which they
    began to wait, then what they have queued is run. -/
def settle (b : Workbench) : Workbench :=
  let waiting := b.parked
  let b := runQueued { b with held := [], parked := [] }
  drain (waiting.foldl unpark b)

/-- Settle, and report how the background commands ended that were started since the last report. -/
def release (b : Workbench) : List (Option Outcome) × Workbench :=
  let b := b.settle
  (b.outcomes, { b with outcomes := [] })

/-! ### Drills -/

/-- Plant a fault in a projection. -/
def plantProjection (b : Workbench) (projection : Projection) (fault : Fault) : Workbench :=
  { b with session := { b.session with planted := b.session.planted.put projection fault } }

/-- Plant a fault in a method of the engine. -/
def plantMethod (b : Workbench) (method : EngineMethod) (fault : Fault) : Workbench :=
  { b with engine := b.engine.plant method fault }

end Workbench

end RangeAudit
