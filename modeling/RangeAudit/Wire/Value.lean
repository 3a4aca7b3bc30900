import RangeAudit.Decimal.Binary64
import RangeAudit.Entries

namespace RangeAudit.Wire

/-!
# Wire values

A decoded document: the values that an analysis dump, a configuration file or an event is made of.
The members of an object keep their order; a reader puts a repeated key in its first place with its
last value.
-/

/-- A decoded value. -/
inductive Value where
  | null
  | bool (b : Bool)
  | int (n : Int)
  | real (x : Binary64)
  | str (s : String)
  | arr (items : List Value)
  | obj (fields : List (String × Value))
  deriving Inhabited

namespace Value

/-- The value of a member of an object; nothing for other values and for absent keys. -/
def field? (v : Value) (key : String) : Option Value :=
  match v with
  | obj fields => Entries.find? fields key
  | _ => none

/-- The value of a member, `null` if it is absent. -/
def field (v : Value) (key : String) : Value :=
  (v.field? key).getD null

/-- The truth of a value: absent, zero and empty values are false. -/
def truth : Value → Bool
  | null => false
  | bool b => b
  | int n => n != 0
  | real x => !x.isZero
  | str s => !s.isEmpty
  | arr items => !items.isEmpty
  | obj fields => !fields.isEmpty

/-- The text of a string value. -/
def text? : Value → Option String
  | str s => some s
  | _ => none

/-- The elements of an array; none for other values. -/
def items : Value → List Value
  | arr vs => vs
  | _ => []

/-- Is the value an object? -/
def isObject : Value → Bool
  | obj _ => true
  | _ => false

/-- The elements of an array that are objects. -/
def objects (v : Value) : List Value :=
  v.items.filter isObject

end Value

end RangeAudit.Wire
