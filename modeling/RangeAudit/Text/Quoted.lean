import RangeAudit.Text.Code
import RangeAudit.Text.Hex
import RangeAudit.Text.Printable

namespace RangeAudit.Text

/-!
# Quoted texts

A quoted text shows every character: it stands between single quotes, or between double quotes when
it contains a single quote and no double quote. The chosen quote, the backslash and the characters
that are not printable are escaped.
-/

/-- The quote that needs the fewest escapes; the single quote when in doubt. -/
def quoteFor (cs : List Char) : Char :=
  if cs.contains '\'' && !cs.contains '"' then '"' else '\''

/-- One code between two quotes of the kind `quote`. A half of a pair is not printable. -/
def escapeQuoted (quote : Char) (code : Nat) : List Char :=
  let c := Char.ofNat code
  if c = quote || c = '\\' then ['\\', c]
  else if c = '\n' then ['\\', 'n']
  else if c = '\r' then ['\\', 'r']
  else if c = '\t' then ['\\', 't']
  else if isPrintable c then [c]
  else if code < 0x100 then '\\' :: 'x' :: hexDigits 2 code
  else if code < 0x10000 then '\\' :: 'u' :: hexDigits 4 code
  else '\\' :: 'U' :: hexDigits 8 code

/-- The quoted form of a text. -/
def quoted (text : String) : String :=
  let quote := quoteFor text.toList
  String.ofList (quote :: (codesOf text).flatMap (escapeQuoted quote) ++ [quote])

end RangeAudit.Text
