namespace RangeAudit.Text

/-!
# Tables of code points

A character class of the Unicode standard is kept as the ascending list of its code-point
intervals, both ends included.
-/

/-- A set of characters, as the ascending intervals of its code points. -/
abbrev CodeTable := List (Nat × Nat)

namespace CodeTable

/-- Membership: some interval of the table contains the code point. -/
def has (table : CodeTable) (c : Char) : Bool :=
  table.any fun span => span.1 ≤ c.toNat && c.toNat ≤ span.2

end CodeTable

end RangeAudit.Text
