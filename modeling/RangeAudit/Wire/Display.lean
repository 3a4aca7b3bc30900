import RangeAudit.Decimal.Layout
import RangeAudit.Text.Quoted
import RangeAudit.Wire.Value

namespace RangeAudit.Wire

/-!
# Values as texts

Where a text is expected and another value stands, the value is shown: a string as it is, everything
else as a literal, in which strings are quoted and collections are bracketed.
-/

/-- Floating-point numbers are written positionally from `1e-04` up to sixteen digits before the
    point, and with an exponent of at least two digits beyond. -/
def realLayout : RealLayout where
  positionalFrom := -4
  positionalBelow := 16
  exponentWidth := 2
  infinity := "inf"
  negativeInfinity := "-inf"
  notANumber := "nan"

namespace Value

/-- The name of the type of a value. -/
def typeName : Value → String
  | null => "NoneType"
  | bool _ => "bool"
  | int _ => "int"
  | real _ => "float"
  | str _ => "str"
  | arr _ => "list"
  | obj _ => "dict"

mutual

/-- The literal of a value. -/
def literal : Value → String
  | null => "None"
  | bool b => if b then "True" else "False"
  | int n => Numeral.render n
  | real x => realLayout.render x
  | str s => Text.quoted s
  | arr items => "[" ++ ", ".intercalate (literals items) ++ "]"
  | obj fields => "\x7b" ++ ", ".intercalate (memberLiterals fields) ++ "\x7d"

/-- The literals of the elements of an array. -/
def literals : List Value → List String
  | [] => []
  | v :: rest => v.literal :: literals rest

/-- The literals of the members of an object, each with its quoted key. -/
def memberLiterals : List (String × Value) → List String
  | [] => []
  | (key, v) :: rest => (Text.quoted key ++ ": " ++ v.literal) :: memberLiterals rest

end

/-- The text that a value shows: a string as it is, other values by their literal. -/
def display : Value → String
  | str s => s
  | v => v.literal

end Value

end RangeAudit.Wire
