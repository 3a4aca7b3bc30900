import RangeAudit.Domain.Change
import RangeAudit.Text.Code

namespace RangeAudit

/-!
# Tracking domains along a path

After each step a variable has the domain of its latest mention. The tracker answers from the steps
alone, folding them up to the step in question.

* `Tracked.upTo` : the domains after the steps up to and including one;
* `Tracker.stepDiffs` : the changes that one step made;
* `Tracker.watch` : the domains after a step, the most recently mentioned first.
-/

/-- The latest mention of a variable. -/
structure Tracked where
  range : ValueRange
  lastStep : Nat
  deriving DecidableEq, Inhabited

namespace Tracked

/-- The domains after a step: each variable that it mentions has its new domain. -/
def absorb (tracked : Entries String Tracked) (step : Step) (k : Nat) : Entries String Tracked :=
  step.ranges.foldl (fun acc mention => acc.put mention.1 ⟨mention.2, k⟩) tracked

/-- The domains after a list of steps, the first of which has position `k`. -/
def absorbFrom (tracked : Entries String Tracked) (k : Nat) : List Step → Entries String Tracked
  | [] => tracked
  | step :: rest => absorbFrom (absorb tracked step k) (k + 1) rest

/-- The domains after the first `count` steps. -/
def after (steps : List Step) (count : Nat) : Entries String Tracked :=
  absorbFrom [] 0 (steps.take count)

/-- The domains after the steps up to and including position `k`; none before the first step. -/
def upTo (steps : List Step) (k : Int) : Entries String Tracked :=
  after steps (k + 1).toNat

end Tracked

/-- A change of a variable's domain at a step, in display texts. -/
structure VarDiff where
  name : String
  old : Option String
  new : String
  kind : ChangeKind
  step : Nat
  deriving DecidableEq, Inhabited

/-- The text of a change: the variable, the verdict, and the domain or both domains. -/
def VarDiff.text (diff : VarDiff) : String :=
  diff.name ++ " " ++ diff.kind.name ++ " " ++
    match diff.old with
    | none => diff.new
    | some old => old ++ " → " ++ diff.new

/-- The changes that a statement makes to the domains before it. Without a kind the changes are judged
    by width only. -/
def Statement.diffs (statement : Statement) (before : Entries String Tracked) (kind : Option StepKind)
    (digits : Int) (k : Nat) : List VarDiff :=
  statement.ranges.filterMap fun mention =>
    let previous := (before.find? mention.1).map Tracked.range
    (ValueRange.classify previous mention.2 kind).map fun verdict =>
      { name := mention.1
        old := previous.map (ValueRange.short digits)
        new := mention.2.short digits
        kind := verdict
        step := k }

/-- A row of the watch panel. -/
structure WatchRow where
  name : String
  domain : String
  lastStep : Nat
  unrestricted : Bool
  deriving DecidableEq, Inhabited

/-- The domain state of a path, shown with numbers of at most `digits` characters. -/
structure Tracker where
  path : PathTrace
  digits : Int := 15

namespace Tracker

/-- Does the path carry domains at all? -/
def hasData (t : Tracker) : Bool :=
  t.path.hasDomains

/-- The domains after step `k`, where steps beyond the last count as the last. Nothing on a path
    without domains and before the first step. -/
def at? (t : Tracker) (k : Int) : Option (Entries String Tracked) :=
  if t.hasData && 0 ≤ k && !t.path.steps.isEmpty then
    some (Tracked.upTo t.path.steps (min k (t.path.steps.length - 1)))
  else none

/-- The changes at step `k`. With `withKind` the kind of the step takes part, so that steps which
    replace domains are named as such. -/
def stepDiffs (t : Tracker) (k : Int) (withKind : Bool) : List VarDiff :=
  match t.path.statementAt? k with
  | none => []
  | some statement =>
    statement.diffs (Tracked.upTo t.path.steps (k - 1))
      (if withKind then some statement.kind else none) t.digits k.toNat

/-- The changes of every step, judged by width only. -/
def allStepDiffs (t : Tracker) : List (List VarDiff) :=
  (List.range t.path.steps.length).map fun (k : Nat) => t.stepDiffs k false

/-- The order of the watch panel: the most recently mentioned first, then by name. -/
def watchOrder (a b : WatchRow) : Bool :=
  if a.lastStep = b.lastStep then Text.inOrder a.name b.name else b.lastStep < a.lastStep

/-- The rows of the watch panel after step `k`. -/
def watch (t : Tracker) (k : Int) : List WatchRow :=
  (((t.at? k).getD []).map fun entry =>
    { name := entry.1
      domain := entry.2.range.short t.digits
      lastStep := entry.2.lastStep
      unrestricted := entry.2.range.isUnrestricted : WatchRow }).mergeSort watchOrder

end Tracker

end RangeAudit
