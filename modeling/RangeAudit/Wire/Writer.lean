import RangeAudit.Wire.Display

namespace RangeAudit.Wire

/-!
# Writing documents

A document is written on one line without blanks, or indented by two blanks a level with a member on
each line. Only quotes, backslashes and control characters are escaped.
-/

/-- Written numbers have the digits of displayed ones; the special values have their own words. -/
def documentLayout : RealLayout :=
  { realLayout with infinity := "Infinity", negativeInfinity := "-Infinity", notANumber := "NaN" }

/-- One character of a written text. -/
def escapeWritten (c : Char) : List Char :=
  if c = '"' ∨ c = '\\' then ['\\', c]
  else if c = '\n' then ['\\', 'n']
  else if c = '\r' then ['\\', 'r']
  else if c = '\t' then ['\\', 't']
  else if c.toNat = 8 then ['\\', 'b']
  else if c.toNat = 12 then ['\\', 'f']
  else if c.toNat < 0x20 then '\\' :: 'u' :: Text.hexDigits 4 c.toNat
  else [c]

/-- A text between double quotes. -/
def writeText (s : String) : String :=
  String.ofList ('"' :: s.toList.flatMap escapeWritten ++ ['"'])

namespace Value

/-- The written form of a value that is not a collection. -/
def writeScalar : Value → String
  | bool b => if b then "true" else "false"
  | int n => Numeral.render n
  | real x => documentLayout.render x
  | str s => writeText s
  | _ => "null"

/-- Parts separated by commas between two brackets, without blanks. -/
def packed (opening closing : String) (parts : List String) : String :=
  opening ++ ",".intercalate parts ++ closing

/-- Parts on lines of their own between two brackets, `depth` levels deep; nothing between the
    brackets if there are no parts. -/
def stacked (opening closing : String) (depth : Nat) (parts : List String) : String :=
  if parts.isEmpty then opening ++ closing
  else
    let outer := String.ofList ('\n' :: List.replicate (2 * depth) ' ')
    let inner := outer ++ "  "
    opening ++ inner ++ ("," ++ inner).intercalate parts ++ outer ++ closing

mutual

/-- The document of a value on one line. -/
def compact : Value → String
  | arr items => packed "[" "]" (compactItems items)
  | obj fields => packed "\x7b" "\x7d" (compactMembers fields)
  | v => v.writeScalar

/-- The elements of an array on one line each. -/
def compactItems : List Value → List String
  | [] => []
  | v :: rest => v.compact :: compactItems rest

/-- The members of an object on one line each. -/
def compactMembers : List (String × Value) → List String
  | [] => []
  | (key, v) :: rest => (writeText key ++ ":" ++ v.compact) :: compactMembers rest

end

mutual

/-- The indented document of a value, `depth` levels deep. -/
def indented (depth : Nat) : Value → String
  | arr items => stacked "[" "]" depth (indentedItems (depth + 1) items)
  | obj fields => stacked "\x7b" "\x7d" depth (indentedMembers (depth + 1) fields)
  | v => v.writeScalar

/-- The indented elements of an array. -/
def indentedItems (depth : Nat) : List Value → List String
  | [] => []
  | v :: rest => v.indented depth :: indentedItems depth rest

/-- The indented members of an object. -/
def indentedMembers (depth : Nat) : List (String × Value) → List String
  | [] => []
  | (key, v) :: rest => (writeText key ++ ": " ++ v.indented depth) :: indentedMembers depth rest

end

/-- The indented document of a value. -/
def pretty (v : Value) : String :=
  v.indented 0

end Value

end RangeAudit.Wire
