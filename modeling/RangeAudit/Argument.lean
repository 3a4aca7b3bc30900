import RangeAudit.Fault

namespace RangeAudit.Argument

/-!
# Arguments

A request may give any value for a parameter. A number counts by its worth, whatever its form. What is no
number is refused only where something has to be done with it that it does not allow.

* `elements`, `member` : what a sequence runs over, and what an object has under a key;
* `keyOf` : what a value is looked up by;
* `limit?`, `stepOf`, `positionOf` : limits, steps and positions.
-/

open Wire (Value)

/-- The elements that a value runs over: those of an array, the keys of an object, the characters of a
    text. -/
def elements : Value → Except Fault (List Value)
  | .arr items => .ok items
  | .obj fields => .ok (fields.map fun field => .str field.1)
  | .str s => .ok ((Text.letters s).map .str)
  | v => .error (.notIterable v.typeName)

/-- What an object has under a key. -/
def member (v : Value) (key : String) : Except Fault Value :=
  match v with
  | .obj fields =>
    match Entries.find? fields key with
    | some v => .ok v
    | none => .error (.noKey key)
  | .str _ => .error (.notAnIndex "string" "str")
  | .arr _ => .error (.notAnIndex "list" "str")
  | v => .error (.noMembers v.typeName)

/-- The id by which a value is looked up in a table; what is no number is the id of nothing.
    Collections cannot be looked up. -/
def keyOf (v : Value) : Except Fault (Option Int) :=
  match v with
  | .arr _ | .obj _ => .error (.notHashable v.typeName)
  | v => .ok v.equalInteger?

/-- A limit on the characters of a numeral that no numeral exceeds, with all its digits and a sign. -/
def noLimit : Int := Numeral.maxDigits + 1

/-- The largest integer that a limit allows; nothing for what is no number. -/
def limit? : Value → Option Int
  | .real (.finite negative mantissa exponent) => some (Binary64.floor negative mantissa exponent)
  | .real (.infinite true) => some (-1)
  | .real _ => some noLimit
  | v => v.equalInteger?

/-- The step, among `count` steps, that a value asks for. A number beyond the last step asks for the
    last one and need not be whole, unless it is less than one beyond. What is no number is first
    compared with a bound, or a bound with it. -/
def stepOf (count : Nat) (comparedFirst : Bool) (v : Value) : Except Fault Int :=
  match v with
  | .real (.finite negative mantissa exponent) =>
    let floor := Binary64.floor negative mantissa exponent
    if Binary64.ceiling negative mantissa exponent < (count : Int) then .error (.notWhole v.typeName)
    else if 0 ≤ floor ∧ floor < (count : Int) then .error (.notAnIndex "tuple" v.typeName)
    else .ok count
  | .real (.infinite false) => .ok count
  | .real _ => .error (.notWhole v.typeName)
  | v =>
    match v.equalInteger? with
    | some k => .ok k
    | none =>
      if comparedFirst then .error (.notComparable "<" v.typeName "int")
      else .error (.notComparable "<" "int" v.typeName)

/-- The position, in a sequence of `length` elements, that a value asks for. A number that is no
    position of the sequence need not be whole, and asks for nothing. With `mustBeInside` a position
    must compare as inside the bounds, else it must not compare as outside; not-a-number compares as
    neither. -/
def positionOf (sequence : String) (length : Nat) (mustBeInside : Bool) (refusal : String → Fault) (v : Value) :
    Except Fault (Option Int) :=
  match v with
  | .null => .ok none
  | .real (.finite negative mantissa exponent) =>
    let floor := Binary64.floor negative mantissa exponent
    if 0 ≤ floor ∧ floor < length then .error (.notAnIndex sequence v.typeName) else .ok (some (-1))
  | .real .notANumber =>
    if mustBeInside then .ok (some (-1)) else .error (.notAnIndex sequence v.typeName)
  | .real (.infinite _) => .ok (some (-1))
  | v =>
    match v.equalInteger? with
    | some k => .ok (some k)
    | none => .error (refusal v.typeName)

end RangeAudit.Argument
