import RangeAudit.Wire.Display
import RangeAudit.Wire.Reader

namespace RangeAudit.Wire

/-!
# Values as integers

Counts may be given in any form that can be turned into an integer: booleans count as one and zero,
floating-point numbers lose their fraction, texts must be numerals.

* `Value.toInteger` : the integer that a value is turned into;
* `Value.equalInteger?` : the integer that a value is equal to, if it is a number without a fraction.
-/

/-- Why a value cannot be turned into an integer. -/
inductive IntegerError where
  | notANumeral (text : String)
  | numeralTooLong (digits : Nat)
  | infinite
  | notANumber
  /-- The word is the name of the type. -/
  | wrongType (type : String)
  deriving DecidableEq, Inhabited

/-- The wording of a refusal. Of the quoted text the first 200 characters are shown. -/
def IntegerError.message : IntegerError → String
  | notANumeral text =>
    "invalid literal for int() with base 10: " ++ String.ofList ((Text.quoted text).toList.take 200)
  | numeralTooLong digits => (ReadError.numeralTooLong digits).message
  | infinite => "cannot convert float infinity to integer"
  | notANumber => "cannot convert float NaN to integer"
  | wrongType type =>
    s!"int() argument must be a string, a bytes-like object or a real number, not '{type}'"

/-- The integer that a text writes. Too many digits are noticed before anything behind them. -/
def integerOfText (text : String) : Except IntegerError Int :=
  match Numeral.strict? text with
  | some n => .ok n
  | none =>
    let digits := (Numeral.digitCount? text).getD 0
    .error (if Numeral.maxDigits < digits then .numeralTooLong digits else .notANumeral text)

namespace Value

/-- The integer that a value is turned into. -/
def toInteger : Value → Except IntegerError Int
  | int n => .ok n
  | bool b => .ok (if b then 1 else 0)
  | real (.finite negative mantissa exponent) =>
    .ok (Binary64.wholePart negative mantissa exponent)
  | real (.infinite _) => .error .infinite
  | real .notANumber => .error .notANumber
  | str s => integerOfText s
  | v => .error (.wrongType v.typeName)

/-- The integer that a value is equal to. -/
def equalInteger? : Value → Option Int
  | int n => some n
  | bool b => some (if b then 1 else 0)
  | real (.finite negative mantissa exponent) =>
    if Binary64.isWhole mantissa exponent then some (Binary64.wholePart negative mantissa exponent) else none
  | _ => none

end Value

end RangeAudit.Wire
