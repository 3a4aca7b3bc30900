import RangeAudit.Session.Views
import RangeAudit.Session.Workbench

namespace RangeAudit

/-!
# Opening a function

From an archive to a workbench at which one function, and on demand one of its paths and steps, is
selected and nothing is outstanding.
-/

namespace Workbench

/-- Load the contracts, select the function that fits a specification, and wait for its data. -/
def openFunction (engine : Engine) (config : Config) (spec : String) : Except Fault Workbench :=
  match (fresh engine config).load with
  | (.error fault, _) => .error fault
  | (.ok (), b) =>
    match b.session.findFunction spec with
    | .error fault => .error fault
    | .ok (_, f) =>
      match b.dispatch (.selectFunction f.id none) with
      | (.error fault, _) => .error fault
      | (.ok (), b) => .ok b.settle

/-- Apply an event, if there is one. -/
def dispatchSome (b : Workbench) : Option NavigationEvent → Except Fault Workbench
  | none => .ok b
  | some event =>
    match b.dispatch event with
    | (.error fault, _) => .error fault
    | (.ok (), b) => .ok b

/-- Select a path of the selected function, and a step of it. The position of the path must be one of
    the known paths. -/
def openPath (b : Workbench) (k : Int) (step : Option Int) : Except Fault Workbench := do
  let paths := (← b.session.paths).getD []
  if k < 0 || (paths.length : Int) ≤ k then throw (.pathOutOfRange k paths.length)
  let b ← b.dispatchSome (some (.selectPath k))
  b.dispatchSome (step.map NavigationEvent.highlightStep)

/-- A workbench for the function that fits a specification, with a path and a step of it if they are
    given. Without a path the step does not matter. -/
def openAt (engine : Engine) (config : Config) (spec : String) (path step : Option Int) :
    Except Fault Workbench := do
  let b ← openFunction engine config spec
  match path with
  | none => return b
  | some k => b.openPath k step

end Workbench

end RangeAudit
