namespace RangeAudit

/-!
# Binary floating-point numbers

The numbers of the wire format that have a fraction or an exponent are binary64 numbers. They are
kept as what they stand for, a sign and `mantissa · 2 ^ exponent`, and read from a decimal by exact
arithmetic: to the nearest number of the format, a tie to the even mantissa.
-/

/-- A binary64 number. A finite number has `mantissa < 2 ^ 53` and `-1074 ≤ exponent ≤ 971`. -/
inductive Binary64 where
  | finite (negative : Bool) (mantissa : Nat) (exponent : Int)
  | infinite (negative : Bool)
  | notANumber
  deriving DecidableEq, Inhabited

namespace Binary64

/-- Is the number a zero of either sign? -/
def isZero : Binary64 → Bool
  | finite _ mantissa _ => mantissa == 0
  | _ => false

/-- The numerator and denominator of `num / den / 2 ^ exponent`. -/
def scaleDown (num den : Nat) (exponent : Int) : Nat × Nat :=
  if 0 ≤ exponent then (num, den * Nat.pow 2 exponent.toNat)
  else (num * Nat.pow 2 (-exponent).toNat, den)

/-- The numerator and denominator of `mantissa · 2 ^ exponent`. -/
def scaleUp (mantissa : Nat) (exponent : Int) : Nat × Nat :=
  scaleDown mantissa 1 (-exponent)

/-- A quotient rounded to the nearest integer, a tie to the even one. -/
def roundHalfEven (num den : Nat) : Nat :=
  let q := num / den
  let rest := num % den
  if 2 * rest < den then q
  else if den < 2 * rest then q + 1
  else if q % 2 = 0 then q else q + 1

/-- The exponent at which a positive quotient has a mantissa of 53 bits, or the least exponent of the
    format if that is larger. -/
def exponentFor (num den : Nat) : Int :=
  let guess : Int := (Nat.log2 num : Int) - (Nat.log2 den : Int) - 52
  let (n, d) := scaleDown num den guess
  max (if n < Nat.pow 2 52 * d then guess - 1 else guess) (-1074)

/-- The number nearest to a positive quotient. -/
def ofQuotient (negative : Bool) (num den : Nat) : Binary64 :=
  let exponent := exponentFor num den
  let (n, d) := scaleDown num den exponent
  let mantissa := roundHalfEven n d
  let (mantissa, exponent) :=
    if mantissa = Nat.pow 2 53 then (Nat.pow 2 52, exponent + 1) else (mantissa, exponent)
  if 971 < exponent then infinite negative else finite negative mantissa exponent

/-- The number nearest to `digits · 10 ^ exponent`. Decimals far outside the range of the format are
    recognised by their size, before any power is formed. -/
def ofDecimal (negative : Bool) (digits : Nat) (exponent : Int) : Binary64 :=
  if digits = 0 then finite negative 0 (-1074)
  else
    let size : Int := (Nat.log2 digits : Int) / 4 + exponent
    if 400 < size then infinite negative
    else if (Nat.log2 digits : Int) / 3 + exponent < -400 then finite negative 0 (-1074)
    else if 0 ≤ exponent then ofQuotient negative (digits * Nat.pow 10 exponent.toNat) 1
    else ofQuotient negative digits (Nat.pow 10 (-exponent).toNat)

/-- The integer that is left of `mantissa · 2 ^ exponent` without its fraction. -/
def wholePart (negative : Bool) (mantissa : Nat) (exponent : Int) : Int :=
  let (num, den) := scaleUp mantissa exponent
  let n : Int := (num / den : Nat)
  if negative then -n else n

/-- Has `mantissa · 2 ^ exponent` no fraction? -/
def isWhole (mantissa : Nat) (exponent : Int) : Bool :=
  let (num, den) := scaleUp mantissa exponent
  num % den == 0

/-- The largest integer that is not above `mantissa · 2 ^ exponent`. -/
def floor (negative : Bool) (mantissa : Nat) (exponent : Int) : Int :=
  let whole := wholePart negative mantissa exponent
  if negative && !isWhole mantissa exponent then whole - 1 else whole

/-- The smallest integer that is not below `mantissa · 2 ^ exponent`. -/
def ceiling (negative : Bool) (mantissa : Nat) (exponent : Int) : Int :=
  -(floor (!negative) mantissa exponent)

end Binary64

end RangeAudit
