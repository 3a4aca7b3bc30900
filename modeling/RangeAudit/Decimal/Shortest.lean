import RangeAudit.Decimal.Binary64

namespace RangeAudit

/-!
# The shortest decimal that reads back

Among the decimals that are read as a given binary64 number, take those with the fewest digits, and
of these the nearest to the number. For each count of digits only the two neighbours of the number
on that decimal grid can be nearest, so only they are tested, in exact arithmetic.
-/

/-- The positive decimal `digits · 10 ^ exponent`. -/
structure Decimal where
  digits : Nat
  exponent : Int
  deriving DecidableEq, Inhabited

namespace Decimal

/-- The same decimal without final zeros; `fuel` bounds how many are removed. -/
def stripZeros : (fuel : Nat) → Decimal → Decimal
  | 0, d => d
  | fuel + 1, d =>
    if d.digits ≠ 0 ∧ d.digits % 10 = 0 then stripZeros fuel ⟨d.digits / 10, d.exponent + 1⟩ else d

end Decimal

namespace Binary64

/-- The largest `k` with `10 ^ k ≤ num / den`, from the lengths of the two decimals. -/
def floorLog10 (num den : Nat) : Int :=
  let guess : Int := ((Nat.toDigits 10 num).length : Int) - ((Nat.toDigits 10 den).length : Int)
  let reached :=
    if 0 ≤ guess then decide (den * Nat.pow 10 guess.toNat ≤ num)
    else decide (den ≤ num * Nat.pow 10 (-guess).toNat)
  if reached then guess else guess - 1

/-- The numerator and denominator of `num / den / 10 ^ exponent`. -/
def onGrid (num den : Nat) (exponent : Int) : Nat × Nat :=
  if 0 ≤ exponent then (num, den * Nat.pow 10 exponent.toNat)
  else (num * Nat.pow 10 (-exponent).toNat, den)

/-- The numbers read as a given one: those between two ends, which belong to them when the mantissa is
    even. All are numerators over one denominator. -/
structure Neighbourhood where
  low : Nat
  value : Nat
  high : Nat
  den : Nat
  closed : Bool

/-- The neighbourhood of `mantissa · 2 ^ exponent`. The step below a power of two is half as wide. -/
def neighbourhood (mantissa : Nat) (exponent : Int) : Neighbourhood :=
  let below := if mantissa = Nat.pow 2 52 ∧ -1074 < exponent then 1 else 2
  let unit := exponent - 2
  let scale (n : Nat) : Nat := if 0 ≤ unit then n * Nat.pow 2 unit.toNat else n
  { low := scale (4 * mantissa - below)
    value := scale (4 * mantissa)
    high := scale (4 * mantissa + 2)
    den := if 0 ≤ unit then 1 else Nat.pow 2 (-unit).toNat
    closed := mantissa % 2 == 0 }

/-- Is the point `n` of the grid `10 ^ exponent` in the neighbourhood? -/
def Neighbourhood.covers (area : Neighbourhood) (n : Nat) (exponent : Int) : Bool :=
  let (low, den) := onGrid area.low area.den exponent
  let (high, _) := onGrid area.high area.den exponent
  if area.closed then low ≤ n * den && n * den ≤ high else low < n * den && n * den < high

/-- The point of the grid `10 ^ exponent` that is nearest to the number, if the neighbourhood has one;
    of two at the same distance, the even one. -/
def Neighbourhood.nearest? (area : Neighbourhood) (exponent : Int) : Option Nat :=
  let (value, den) := onGrid area.value area.den exponent
  let down := value / den
  let up := down + 1
  let rest := value % den
  match area.covers down exponent && down ≠ 0, area.covers up exponent with
  | true, true =>
    if 2 * rest < den then some down
    else if den < 2 * rest then some up
    else if down % 2 = 0 then some down else some up
  | true, false => some down
  | false, true => some up
  | false, false => none

/-- The first grid with a point in the neighbourhood, from `count` digits on. -/
def Neighbourhood.search (area : Neighbourhood) (lead : Int) : (fuel count : Nat) → Option Decimal
  | 0, _ => none
  | fuel + 1, count =>
    let exponent := lead - (count : Int) + 1
    match area.nearest? exponent with
    | some n => some ⟨n, exponent⟩
    | none => area.search lead fuel (count + 1)

/-- The shortest decimal that is read as `mantissa · 2 ^ exponent`; seventeen digits always suffice.
    -/
def shortest (mantissa : Nat) (exponent : Int) : Decimal :=
  let area := neighbourhood mantissa exponent
  let lead := floorLog10 area.value area.den
  ((area.search lead 17 1).getD ⟨0, 0⟩).stripZeros 20

end Binary64

end RangeAudit
