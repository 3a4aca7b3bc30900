import RangeAudit.Archive.Engine

namespace RangeAudit

/-!
# Background tasks

What is fetched in the background is fetched by a task. A task begins to run some time after it was
created; its first turn asks the engine and waits, and its second turn, after the answer has come, takes
the answer over. A request to cancel it only leaves a mark: the next turn of the task, wherever it stands
by then, ends it without doing anything. A task that has ended cannot be cancelled any more.

* `Fetch` : what a task is after, under the number of the task;
* `Task`, `TaskPhase` : a task and how far it is;
* `Task.cancel`, `Task.hear` : what is done to a task from outside.
-/

/-- What a background fetch is after. -/
inductive FetchAim where
  | flowGraph
  | detail
  deriving DecidableEq, Inhabited

/-- A background fetch. Its ticket, the number of its task, tells it from all others. -/
structure Fetch where
  ticket : Nat
  aim : FetchAim
  functionId : Int
  deriving DecidableEq, Inhabited

/-- What a fetch asks the engine for. -/
abbrev Fetch.query (f : Fetch) : Query :=
  match f.aim with
  | .flowGraph => .flowGraph f.functionId
  | .detail => .detail f.functionId

/-- How far a task is that asks the engine for something. -/
inductive TaskPhase (query : Query) where
  /-- The task has not begun to run. -/
  | created
  /-- The engine was asked and has not answered. -/
  | waiting
  /-- The engine has answered, and the task has not gone on yet. -/
  | answered (answer : Except Fault query.Answer)
  /-- The task has come to its end. -/
  | returned
  /-- The task was ended by a cancellation. -/
  | cancelled
  deriving Inhabited

/-- A task that runs a fetch. -/
structure Task where
  fetch : Fetch
  phase : TaskPhase fetch.query := .created
  /-- Was the task asked to stop, before it had ended? -/
  cancelRequested : Bool := false
  deriving Inhabited

namespace Task

/-- A task that is created for a fetch. -/
def ofFetch (f : Fetch) : Task :=
  { fetch := f }

/-- Has the task ended? -/
def isDone (t : Task) : Bool :=
  match t.phase with
  | .returned | .cancelled => true
  | .created | .waiting | .answered _ => false

/-- Will the task go on as it was meant to? -/
def isLive (t : Task) : Bool :=
  !t.isDone && !t.cancelRequested

/-- Does the task wait for the engine, and is it to go on? -/
def isWaiting (t : Task) : Bool :=
  match t.phase with
  | .waiting => !t.cancelRequested
  | .created | .answered _ | .returned | .cancelled => false

/-- Ask a task to stop. A task that has ended takes no notice. -/
def cancel (t : Task) : Task :=
  if t.isDone then t else { t with cancelRequested := true }

/-- The answer of the engine comes. Only a task that waits for it and is to go on hears it. -/
def hear (t : Task) (answer : Except Fault t.fetch.query.Answer) : Task :=
  if t.isWaiting then { t with phase := .answered answer } else t

/-- The task has come to its end. -/
def finish (t : Task) : Task :=
  { t with phase := .returned }

end Task

end RangeAudit
