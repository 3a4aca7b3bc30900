import RangeAudit.Analysis.Basic

namespace RangeAudit

/-!
# The scope of a function

The state that a function touches, and the paths that pass a filter.
-/

namespace Analysis

/-- The accesses of the variables that a function reads or writes. -/
def touching (a : Analysis) (functionId : Int) : List StateAccess :=
  a.stateAccesses.filter fun access => access.touchedBy functionId

/-- The variables that a function reads or writes, ascending and each once. -/
def touchedVariables (a : Analysis) (functionId : Int) : List Int :=
  ((a.touching functionId).map StateAccess.varId).eraseDups.mergeSort

/-- The accesses to the variables that a function touches; all of them without a function. -/
def scopedAccesses (a : Analysis) (functionId : Option Int) : List StateAccess :=
  match functionId with
  | none => a.stateAccesses
  | some id => a.stateAccesses.filter fun access => (a.touchedVariables id).contains access.varId

/-- The global ranges of the variables that a function touches; all of them without a function. -/
def scopedRanges (a : Analysis) (functionId : Option Int) : List GlobalRange :=
  match functionId with
  | none => a.globalRanges
  | some id => a.globalRanges.filter fun g => (a.touchedVariables id).contains g.varId

end Analysis

/-- Which paths are listed. -/
inductive PathFilter where
  | all
  | returns
  | reverts
  | arith
  deriving DecidableEq, Inhabited

namespace PathFilter

/-- The filters, in the order in which they are offered. -/
def choices : List PathFilter := [all, returns, reverts, arith]

/-- The name of a filter. -/
def name : PathFilter → String
  | all => "all"
  | returns => "return"
  | reverts => "revert"
  | arith => "arith"

/-- The filter of a name. -/
def ofName? (name : String) : Option PathFilter :=
  choices.find? fun f => f.name == name

/-- Does a path meet the filter? -/
def meets : PathFilter → PathTrace → Bool
  | all, _ => true
  | returns, path => path.exit == .returns
  | reverts, path => path.exit == .reverts
  | arith, path => !path.checks.isEmpty

/-- The paths that meet the filter, with their positions. Infeasible paths are listed on demand. -/
def select (f : PathFilter) (includeInfeasible : Bool) (paths : List PathTrace) :
    List (Nat × PathTrace) :=
  (paths.zipIdx.filter fun p => (p.1.feasible || includeInfeasible) && f.meets p.1).map
    fun p => (p.2, p.1)

end PathFilter

end RangeAudit
