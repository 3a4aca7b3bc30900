import RangeAudit.Decimal.Shortest
import RangeAudit.Numeral

namespace RangeAudit

/-!
# How a floating-point number is written

The digits are those of the shortest decimal that reads back. The layout says where positional
notation ends and how the exponent looks.
-/

/-- The choices of a written form of binary64 numbers. -/
structure RealLayout where
  /-- The least decimal exponent that is written positionally. -/
  positionalFrom : Int
  /-- The least decimal exponent above which powers of ten are written. -/
  positionalBelow : Int
  /-- The least number of digits of a written exponent. -/
  exponentWidth : Nat
  infinity : String
  negativeInfinity : String
  notANumber : String

namespace RealLayout

/-- Zeros in front of a numeral, up to `width` digits. -/
def zeroPad (width n : Nat) : String :=
  let digits := Nat.toDigits 10 n
  String.ofList (List.replicate (width - digits.length) '0' ++ digits)

/-- Digits with the point after `lead + 1` of them, filled up with zeros on the side that needs them;
    at least one digit stands after the point. -/
def positional (digits : List Char) (lead : Int) : List Char :=
  if lead < 0 then '0' :: '.' :: List.replicate ((-lead).toNat - 1) '0' ++ digits
  else
    let whole := lead.toNat + 1
    let front := digits.take whole ++ List.replicate (whole - digits.length) '0'
    let back := digits.drop whole
    front ++ '.' :: (if back.isEmpty then ['0'] else back)

/-- One digit, the others after a point if there are any, and the exponent with its sign. -/
def scientific (layout : RealLayout) (digits : List Char) (lead : Int) : String :=
  let front := match digits with
    | [] => []
    | [d] => [d]
    | d :: rest => d :: '.' :: rest
  String.ofList (front ++ ['e', if lead < 0 then '-' else '+']) ++
    zeroPad layout.exponentWidth lead.natAbs

/-- The written form of a number. -/
def render (layout : RealLayout) : Binary64 → String
  | .notANumber => layout.notANumber
  | .infinite negative => if negative then layout.negativeInfinity else layout.infinity
  | .finite negative mantissa exponent =>
    let body :=
      if mantissa = 0 then "0.0"
      else
        let decimal := Binary64.shortest mantissa exponent
        let digits := Nat.toDigits 10 decimal.digits
        let lead := decimal.exponent + (digits.length : Int) - 1
        if layout.positionalFrom ≤ lead ∧ lead < layout.positionalBelow then
          String.ofList (positional digits lead)
        else layout.scientific digits lead
    if negative then "-" ++ body else body

end RealLayout

end RangeAudit
