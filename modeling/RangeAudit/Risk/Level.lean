namespace RangeAudit

/-!
# Risk levels

The severity of what is found on a line, from the most severe to none. A level is only ever raised:
the more severe of two signals prevails.
-/

/-- The severity of a line. -/
inductive RiskLevel where
  | red
  | orange
  | blue
  | green
  | clear
  deriving DecidableEq, Inhabited

namespace RiskLevel

/-- The levels from the most severe on. -/
def all : List RiskLevel := [red, orange, blue, green, clear]

/-- The levels that a gate may be set to. -/
def gates : List RiskLevel := [red, orange, blue, green]

/-- The rank of a level; a lower rank is more severe. -/
def rank : RiskLevel → Nat
  | red => 0
  | orange => 1
  | blue => 2
  | green => 3
  | clear => 4

/-- The name of a level. -/
def name : RiskLevel → String
  | red => "red"
  | orange => "orange"
  | blue => "blue"
  | green => "green"
  | clear => "none"

/-- The level of a name. -/
def ofName? (name : String) : Option RiskLevel :=
  all.find? fun level => level.name == name

/-- The mark beside a line. -/
def glyph : RiskLevel → String
  | red => "!!"
  | orange => "!"
  | blue => "~"
  | green => ">"
  | clear => ""

/-- The colour of the mark on the console. -/
def colour : RiskLevel → String
  | red => "red"
  | orange => "dark_orange"
  | blue => "blue"
  | green => "green"
  | clear => "white"

/-- What a line of the level adds to the score of a report. -/
def weight : RiskLevel → Nat
  | red => 10
  | orange => 3
  | blue => 1
  | green => 0
  | clear => 0

/-- The more severe of two levels. -/
def raiseTo (current level : RiskLevel) : RiskLevel :=
  if level.rank < current.rank then level else current

end RiskLevel

/-- The level of a kind of finding: the kinds that break arithmetic are red, the kinds that lose
    precision and all unknown kinds are orange. -/
def checkLevel (check : String) : RiskLevel :=
  if ["Overflow", "Underflow", "DivByZero", "UncheckedReturn"].contains check then .red else .orange

/-- What is known about a line: its level and the reasons. -/
structure LineRisk where
  level : RiskLevel := .clear
  descriptions : List String := []
  deriving DecidableEq, Inhabited

namespace LineRisk

/-- The same line at least as severe as `level`. -/
def raise (risk : LineRisk) (level : RiskLevel) : LineRisk :=
  { risk with level := risk.level.raiseTo level }

/-- The same line with one more reason. -/
def describe (risk : LineRisk) (text : String) : LineRisk :=
  { risk with descriptions := risk.descriptions ++ [text] }

end LineRisk

end RangeAudit
