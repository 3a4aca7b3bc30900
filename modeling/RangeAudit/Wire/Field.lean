import RangeAudit.Wire.Display

namespace RangeAudit.Wire.Value

/-!
# Reading members

The members of an object are read leniently: a number may be written as a text, any value shows a
text, any value has a truth. Each reader says what an absent member stands for.
-/

/-- The integer that a value writes: an integer itself, or a text that is a numeral. Booleans,
    floating-point numbers and everything else write none. -/
def int? : Value → Option Int
  | int n => some n
  | str s => Numeral.parse? s
  | _ => none

/-- The integer that a member writes. -/
def intField? (v : Value) (key : String) : Option Int :=
  (v.field key).int?

/-- The integer that a member writes, or a default. -/
def intField (v : Value) (key : String) (default : Int) : Int :=
  (v.intField? key).getD default

/-- The text that a member shows, or a default if it is absent. -/
def textField (v : Value) (key : String) (default : String) : String :=
  ((v.field? key).map display).getD default

/-- The text of a member that is a string. -/
def stringField? (v : Value) (key : String) : Option String :=
  (v.field key).text?

/-- The truth of a member, or a default if it is absent. -/
def flagField (v : Value) (key : String) (default : Bool) : Bool :=
  ((v.field? key).map truth).getD default

/-- The members of a member that is an array of objects. -/
def objectsField (v : Value) (key : String) : List Value :=
  (v.field key).objects

end RangeAudit.Wire.Value
