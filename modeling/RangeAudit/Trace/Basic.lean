import RangeAudit.Domain.Range
import RangeAudit.Entries

namespace RangeAudit

/-!
# Execution traces

A path through a function is a list of steps with the arithmetic findings, the inlined calls and the
exit that belong to it. A step that was analysed carries the domains that it changed; a step that was
only described carries its text.
-/

/-- What a statement does to the state. -/
inductive StepKind where
  | assert
  | assertNot
  | assign
  | havoc
  | checked
  | call
  | stmt
  deriving DecidableEq, Inhabited

namespace StepKind

/-- Every kind. -/
def all : List StepKind := [assert, assertNot, assign, havoc, checked, call, stmt]

/-- The name of a kind on the wire. -/
def name : StepKind → String
  | assert => "assert"
  | assertNot => "assertNot"
  | assign => "assign"
  | havoc => "havoc"
  | checked => "checked"
  | call => "call"
  | stmt => "stmt"

/-- The label of a kind in a list of steps. -/
def label : StepKind → String
  | assert => "ASSERT"
  | assertNot => "ASSERT_NOT"
  | assign => "ASSIGN"
  | havoc => "HAVOC"
  | checked => "CHECKED"
  | call => "CALL"
  | stmt => "STMT"

/-- The kind of a name. -/
def ofName? (name : String) : Option StepKind :=
  all.find? fun kind => kind.name == name

/-- An assignment and a havoc replace the domain of a variable without regard to the old one. -/
def replaces : StepKind → Bool
  | assign | havoc => true
  | _ => false

end StepKind

/-- How a path ends. -/
inductive ExitKind where
  | returns
  | reverts
  | truncated
  deriving DecidableEq, Inhabited

namespace ExitKind

/-- The name of an exit on the wire. -/
def name : ExitKind → String
  | returns => "return"
  | reverts => "revert"
  | truncated => "truncated"

/-- The exit of a name. -/
def ofName? (name : String) : Option ExitKind :=
  [returns, reverts, truncated].find? fun exit => exit.name == name

end ExitKind

/-- An analysed statement and the domains that it changed. -/
structure Statement where
  text : String
  kind : StepKind := .stmt
  node : Option Int := none
  ranges : Entries String ValueRange := []
  deriving DecidableEq, Inhabited

/-- A step of a path. -/
inductive Step where
  | described (text : String)
  | analysed (statement : Statement)
  deriving DecidableEq, Inhabited

namespace Step

/-- The statement of an analysed step. -/
def statement? : Step → Option Statement
  | analysed statement => some statement
  | described _ => none

/-- The text of a step. -/
def text : Step → String
  | analysed statement => statement.text
  | described text => text

/-- The domains that a step changed; none if it was only described. -/
def ranges : Step → Entries String ValueRange
  | analysed statement => statement.ranges
  | described _ => []

end Step

/-- An arithmetic finding at an operation. -/
structure ArithCheck where
  node : Int
  check : String
  severity : String := "medium"
  bound : String := ""
  text : Option String := none
  deriving DecidableEq, Inhabited

/-- Findings with the same key are the same finding. -/
def ArithCheck.key (c : ArithCheck) : Int × String :=
  (c.node, c.check)

/-- A call whose callee was explored as part of the path. -/
structure InlinedCall where
  callNode : Int
  calleeId : Int
  calleeName : String
  calleePaths : Int := 0
  feasiblePaths : Int := 0
  deriving DecidableEq, Inhabited

/-- A path through a function. -/
structure PathTrace where
  index : Int
  exit : ExitKind
  feasible : Bool
  steps : List Step := []
  checks : List ArithCheck := []
  calls : List InlinedCall := []
  constraintCount : Int := 0
  deriving DecidableEq, Inhabited

namespace PathTrace

/-- The statement of an analysed step by its position. -/
def statementAt? (path : PathTrace) (k : Int) : Option Statement :=
  if k < 0 then none else path.steps[k.toNat]?.bind Step.statement?

/-- Does some step carry domains? -/
def hasDomains (path : PathTrace) : Bool :=
  path.steps.any fun step => !step.ranges.isEmpty

end PathTrace

end RangeAudit
