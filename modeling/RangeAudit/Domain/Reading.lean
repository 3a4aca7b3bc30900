import RangeAudit.Domain.Range
import RangeAudit.Wire.Field

namespace RangeAudit

/-!
# Reading ranges

Invalid leaves are left out: an interval whose ends are not integers in order, an exclusion that is
not an integer, a bound that is not an integer. What is not an object is the unconstrained range.
-/

/-- An interval, from an array of two integers in order. -/
def Interval.ofWire? : Wire.Value → Option Interval
  | .arr [low, high] => do
    let low ← low.int?
    let high ← high.int?
    if low ≤ high then some ⟨low, high⟩ else none
  | _ => none

/-- The range that an object describes. -/
def ValueRange.ofWire (v : Wire.Value) : ValueRange where
  intervals := (v.field "intervals").items.filterMap Interval.ofWire?
  exclusions := (v.field "exclusions").items.filterMap Wire.Value.int?
  low := v.intField? "min"
  high := v.intField? "max"

/-- The bounds that an object gives. -/
def Bound.ofWire (v : Wire.Value) : Bound where
  low := v.intField? "min"
  high := v.intField? "max"

end RangeAudit
