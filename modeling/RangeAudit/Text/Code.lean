namespace RangeAudit.Text

/-!
# Codes

A text is a sequence of codes below U+110000. Two blocks of them are no characters: beyond U+FFFF a
character may be written as a high half and a low half, and documents can contain halves that stand alone.
Texts are kept as strings, so such a half is held by two characters, of which the first is a mark that
appears in no other place; the mark itself is held by two of its kind.

* `hold` : the characters that hold a code;
* `codes` : the codes that characters hold;
* `size`, `letters`, `precedes` : texts by their codes.
-/

/-! ### Halves of pairs -/

/-- Is the code the high half of a pair? -/
def isHighHalf (code : Nat) : Bool :=
  0xd800 ≤ code && code < 0xdc00

/-- Is the code the low half of a pair? -/
def isLowHalf (code : Nat) : Bool :=
  0xdc00 ≤ code && code < 0xe000

/-- Is the code half of a pair? -/
def isHalf (code : Nat) : Bool :=
  0xd800 ≤ code && code < 0xe000

/-- The code that two halves write. -/
def joinHalves (high low : Nat) : Nat :=
  0x10000 + (high - 0xd800) * 0x400 + (low - 0xdc00)

/-! ### Codes in strings -/

/-- The character that announces a held code. -/
def mark : Char := Char.ofNat 0x10ffff

/-- The first of the characters that, after a mark, hold the halves. -/
def firstHolder : Nat := 0x100000

/-- The characters that hold a code. -/
def hold (code : Nat) : List Char :=
  if isHalf code then [mark, Char.ofNat (firstHolder + (code - 0xd800))]
  else if code = mark.toNat then [mark, mark]
  else [Char.ofNat code]

/-- The code that a character holds after a mark. -/
def heldCode (c : Char) : Nat :=
  if c = mark then mark.toNat else 0xd800 + (c.toNat - firstHolder)

/-- The codes that characters hold. -/
def codes : List Char → List Nat
  | [] => []
  | [c] => [c.toNat]
  | c :: d :: rest => if c = mark then heldCode d :: codes rest else c.toNat :: codes (d :: rest)

/-! ### Texts by their codes -/

/-- The text of codes. -/
def ofCodes (cs : List Nat) : String :=
  String.ofList (cs.flatMap hold)

/-- The codes of a text. -/
def codesOf (text : String) : List Nat :=
  codes text.toList

/-- A string of characters as a text. -/
def ofPlain (plain : String) : String :=
  ofCodes (plain.toList.map Char.toNat)

/-- A text as a string of characters, in which U+FFFD stands for the halves. -/
def toPlain (text : String) : String :=
  String.ofList ((codesOf text).map fun code => Char.ofNat (if isHalf code then 0xfffd else code))

/-- The number of codes of a text. -/
def size (text : String) : Nat :=
  (codesOf text).length

/-- The texts of a single code that make up a text. -/
def letters (text : String) : List String :=
  (codesOf text).map fun code => ofCodes [code]

/-- Does one text come before another one, code by code? -/
def precedes (a b : String) : Bool :=
  codesOf a < codesOf b

/-- The order of texts in which equal ones may stand either way. -/
def inOrder (a b : String) : Bool :=
  !precedes b a

end RangeAudit.Text
