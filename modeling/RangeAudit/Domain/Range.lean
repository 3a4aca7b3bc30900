import RangeAudit.Fault

namespace RangeAudit

/-!
# Value ranges

The domain of a variable at one point of a path: a union of intervals without some excluded values,
or a lower and an upper bound, or nothing known. A range carries all of this side by side, as it is
delivered; its *shape* says which part counts.

* `ValueRange.shape` : intervals count if there are any, else the bounds, else nothing is known;
* `ValueRange.span` : how many integers the range covers;
* `ValueRange.write` : the canonical text, by which two ranges are compared; it fails if one of the numbers
  has more digits than a numeral may have;
* `ValueRange.exact` : what the canonical text is, however long the numbers are;
* `ValueRange.short` : the text with long numbers abbreviated, for display.
-/

/-- The integers from `low` to `high`. -/
structure Interval where
  low : Int
  high : Int
  deriving DecidableEq, Inhabited

/-- The domain of a variable at one program point. -/
structure ValueRange where
  intervals : List Interval := []
  exclusions : List Int := []
  low : Option Int := none
  high : Option Int := none
  deriving DecidableEq, Inhabited

namespace ValueRange

/-- The part of a range that counts. -/
inductive Shape where
  | pieces (intervals : List Interval) (exclusions : List Int)
  | bounds (low high : Option Int)
  | top
  deriving DecidableEq

/-- Intervals take precedence over bounds; without either the range is unconstrained. -/
def shape (r : ValueRange) : Shape :=
  if r.intervals.isEmpty then
    if r.low.isNone && r.high.isNone then .top else .bounds r.low r.high
  else .pieces r.intervals r.exclusions

/-- The unconstrained range. -/
def top : ValueRange := {}

/-- Is nothing known about the variable? -/
def isTop (r : ValueRange) : Bool :=
  r.intervals.isEmpty && r.low.isNone && r.high.isNone

/-- The number of pieces; bounds and the unconstrained range count as one. -/
def pieceCount (r : ValueRange) : Nat :=
  if r.intervals.isEmpty then 1 else r.intervals.length

/-- The number of excluded values; without intervals nothing is excluded. -/
def exclusionCount (r : ValueRange) : Nat :=
  if r.intervals.isEmpty then 0 else r.exclusions.length

/-- The number of integers in a list of intervals that do not overlap. -/
def covered : List Interval → Int
  | [] => 0
  | piece :: rest => piece.high - piece.low + 1 + covered rest

/-- The number of integers covered, nothing if there is no limit. -/
def span (r : ValueRange) : Option Int :=
  if r.intervals.isEmpty then
    match r.low, r.high with
    | some low, some high => some (max 0 (high - low + 1))
    | _, _ => none
  else some (covered r.intervals)

/-! ### Ranges of whole integer types -/

/-- The widths of the integer types, in bits. -/
def widths : List Nat :=
  (List.range 32).map fun k => 8 * (k + 1)

/-- The number of values of a type of a width. -/
def valueCount (bits : Nat) : Int :=
  (Nat.pow 2 bits : Nat)

/-- The values of the unsigned and signed integer types. -/
def typeRanges : List Interval :=
  widths.map (fun bits => ⟨0, valueCount bits - 1⟩) ++
    widths.map (fun bits => ⟨-valueCount (bits - 1), valueCount (bits - 1) - 1⟩)

/-- Does an interval hold all values of an integer type? -/
def isTypeRange (piece : Interval) : Bool :=
  typeRanges.contains piece

/-- Does the range leave a variable unrestricted? This holds of the unconstrained range, of the ranges
    of whole integer types, and of an absent upper bound over a lower bound of at most zero. -/
def isUnrestricted (r : ValueRange) : Bool :=
  match r.shape with
  | .top => true
  | .pieces [piece] [] => isTypeRange piece
  | .pieces _ _ => false
  | .bounds low none => (low.getD 0) ≤ 0
  | .bounds low (some high) => isTypeRange ⟨low.getD 0, high⟩

/-! ### Texts -/

/-- The limits of the widest integer types, which have names. -/
def namedNumbers : List (Int × String) :=
  [(valueCount 256 - 1, "MAX_UINT256"), (valueCount 128 - 1, "MAX_UINT128"),
   (valueCount 255 - 1, "MAX_INT256"), (-valueCount 255, "MIN_INT256")]

/-- A number for display: its name if it has one; its numeral, cut down to the first six and the last
    four characters if it has more than `digits`. -/
def shortNumber (digits : Int) (n : Int) : String :=
  match namedNumbers.find? fun named => named.1 == n with
  | some (_, name) => name
  | none =>
    let text := Numeral.render n
    if digits < text.length then
      String.ofList (text.toList.take 6) ++ ".." ++
        String.ofList (text.toList.drop (text.length - 4))
    else text

/-- One piece: a single value, or the two ends. -/
def renderPiece (num : Int → String) (piece : Interval) : String :=
  if piece.low = piece.high then num piece.low else num piece.low ++ ".." ++ num piece.high

/-- The excluded values between braces, if there are any. -/
def renderExclusions (num : Int → String) (exclusions : List Int) : String :=
  if exclusions.isEmpty then "" else " \\ \x7b" ++ ",".intercalate (exclusions.map num) ++ "\x7d"

/-- The text of a range, with its numbers written by `num`. -/
def renderWith (num : Int → String) (r : ValueRange) : String :=
  match r.shape with
  | .pieces [piece] exclusions =>
    "[" ++ renderPiece num piece ++ "]" ++ renderExclusions num exclusions
  | .pieces pieces exclusions =>
    " ∪ ".intercalate (pieces.map (renderPiece num)) ++ renderExclusions num exclusions
  | .bounds low high =>
    "[" ++ (low.map num).getD "0" ++ ", " ++ (high.map num).getD "MAX" ++ "]"
  | .top => "TOP"

/-- The canonical text of a range, however long its numbers are; ranges with the same text are the same
    domain. -/
def exact (r : ValueRange) : String :=
  r.renderWith Numeral.render

/-- The text of a range for display, with numbers of more than `digits` characters abbreviated. -/
def short (digits : Int) (r : ValueRange) : String :=
  r.renderWith (shortNumber digits)

/-! ### Writing the canonical text -/

/-- The numeral of an integer; an integer with more digits than a numeral may have is not written. -/
def writeNumber (n : Int) : Except Fault String :=
  if Numeral.Fits n then .ok (Numeral.render n) else .error .numeralTooLong

/-- One piece in numerals. -/
def writePiece (piece : Interval) : Except Fault String :=
  if piece.low = piece.high then writeNumber piece.low
  else do
    let low ← writeNumber piece.low
    let high ← writeNumber piece.high
    return low ++ ".." ++ high

/-- The excluded values in numerals. -/
def writeExclusions (exclusions : List Int) : Except Fault String :=
  if exclusions.isEmpty then .ok ""
  else do
    let texts ← exclusions.mapM writeNumber
    return " \\ \x7b" ++ ",".intercalate texts ++ "\x7d"

/-- A bound in numerals, in the place of an absent one the given text. -/
def writeBound (absent : String) : Option Int → Except Fault String
  | none => .ok absent
  | some n => writeNumber n

/-- The canonical text of a range; it fails at the first number that is not written. -/
def write (r : ValueRange) : Except Fault String :=
  match r.shape with
  | .pieces pieces exclusions => do
    let texts ← pieces.mapM writePiece
    let excluded ← writeExclusions exclusions
    match texts with
    | [text] => return "[" ++ text ++ "]" ++ excluded
    | texts => return " ∪ ".intercalate texts ++ excluded
  | .bounds low high => do
    let lowest ← writeBound "0" low
    let highest ← writeBound "MAX" high
    return "[" ++ lowest ++ ", " ++ highest ++ "]"
  | .top => .ok "TOP"

end ValueRange

/-- The bounds that summaries and global ranges give. -/
structure Bound where
  low : Option Int := none
  high : Option Int := none
  deriving DecidableEq, Inhabited

namespace Bound

/-- The range between the bounds. -/
def toRange (b : Bound) : ValueRange :=
  { low := b.low, high := b.high }

/-- The text of the bounds, abbreviated beyond fifteen characters a number. -/
def render (b : Bound) : String :=
  b.toRange.short 15

/-- Are both bounds absent? -/
def isAbsent (b : Bound) : Bool :=
  b.low.isNone && b.high.isNone

end Bound

end RangeAudit
