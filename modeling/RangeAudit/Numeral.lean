import RangeAudit.Text.Blank
import RangeAudit.Text.DecimalDigit

namespace RangeAudit.Numeral

/-!
# Decimal numerals

The numbers of the wire format may be written as texts: blanks, an optional sign, decimal digits of
any script with single underscores between them, blanks. A numeral has at most `maxDigits` digits,
counted with leading zeros and without underscores and sign.

* `render` : the numeral of an integer, however long; `Fits` says that it is short enough to be written;
* `parse?` : the integer of a numeral, nothing for any other text;
* `strict?` : the same where the information separators do not count as blanks;
* `digitCount?` : the number of digits with which a text begins.
-/

/-- The largest number of digits of a numeral. -/
def maxDigits : Nat := 4300

/-- The digits of a run of digits with single underscores between them. -/
def digits? : List Char → Option (List Nat)
  | [] => none
  | [c] => (Text.digitValue? c).map fun d => [d]
  | c :: '_' :: rest => do
    let d ← Text.digitValue? c
    let ds ← digits? rest
    return d :: ds
  | c :: rest => do
    let d ← Text.digitValue? c
    let ds ← digits? rest
    return d :: ds

/-- The number written by decimal digits, the most significant first. -/
def ofDigits (ds : List Nat) : Nat :=
  ds.foldl (fun n d => 10 * n + d) 0

/-- The number of an unsigned numeral. -/
def magnitude? (cs : List Char) : Option Nat := do
  let ds ← digits? cs
  if ds.length ≤ maxDigits then some (ofDigits ds) else none

/-- The integer of a numeral without surrounding blanks. -/
def ofChars? : List Char → Option Int
  | '-' :: rest => (magnitude? rest).map fun n => -(n : Int)
  | '+' :: rest => (magnitude? rest).map fun n => (n : Int)
  | cs => (magnitude? cs).map fun n => (n : Int)

/-- The integer that a text writes, if it is a numeral between blanks. -/
def parse? (text : String) : Option Int :=
  ofChars? (Text.trimChars text.toList)

/-- The characters of a text without the blanks at either end, where the information separators do not
    count as blanks. -/
def bare (text : String) : List Char :=
  Text.trimWhere (fun c => Text.isBlank c && !Text.isSeparator c) text.toList

/-- The integer that a text writes, if it is a numeral between blanks other than the information
    separators. -/
def strict? (text : String) : Option Int :=
  ofChars? (bare text)

/-- The number of digits with which a text begins, after blanks and a sign; nothing if they do not
    have the form of a numeral. -/
def digitCount? (text : String) : Option Nat :=
  let unsigned := match bare text with
    | '-' :: rest | '+' :: rest => rest
    | cs => cs
  let run := unsigned.takeWhile fun c => c == '_' || (Text.digitValue? c).isSome
  (digits? run).map List.length

/-- The numeral of an integer, however long: a minus sign if it is negative, then its digits. -/
def render (n : Int) : String :=
  if n < 0 then "-" ++ Nat.repr n.natAbs else Nat.repr n.natAbs

/-- An integer has no more digits than a numeral may have. -/
def Fits (n : Int) : Prop :=
  (Nat.repr n.natAbs).length ≤ maxDigits

instance (n : Int) : Decidable (Fits n) :=
  inferInstanceAs (Decidable (_ ≤ _))

end RangeAudit.Numeral
