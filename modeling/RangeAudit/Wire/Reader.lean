import RangeAudit.Text.Encoding
import RangeAudit.Numeral
import RangeAudit.Wire.Value

namespace RangeAudit.Wire

/-!
# Reading documents

A document is one value between white space, in the JSON grammar extended by the numbers `NaN`,
`Infinity` and `-Infinity`. A refusal names the problem and the place where it was met: the offset
counts codes, the line counts line feeds.

* `read` : the value of a document given as a text;
* `readFile` : the same for the content of a file, in the encoding that its bytes show, where one
  byte-order mark may come first.

Arrays and objects may be nested, but not without limit.
-/

/-- What is wrong with a document. -/
inductive Problem where
  | valueExpected
  | keyExpected
  | colonExpected
  | commaExpected
  | unterminatedText
  | controlCharacter
  | badEscape
  | badUnicodeEscape
  | extraData
  | byteOrderMark
  deriving DecidableEq, Inhabited

/-- The wording of a problem. -/
def Problem.message : Problem → String
  | valueExpected => "Expecting value"
  | keyExpected => "Expecting property name enclosed in double quotes"
  | colonExpected => "Expecting ':' delimiter"
  | commaExpected => "Expecting ',' delimiter"
  | unterminatedText => "Unterminated string starting at"
  | controlCharacter => "Invalid control character at"
  | badEscape => "Invalid \\escape"
  | badUnicodeEscape => "Invalid \\uXXXX escape"
  | extraData => "Extra data"
  | byteOrderMark => "Unexpected UTF-8 BOM (decode using utf-8-sig)"

/-- Why a document is refused. -/
inductive ReadError where
  /-- The grammar is violated at a place; line and column are counted from one. -/
  | malformed (problem : Problem) (line column offset : Nat)
  /-- An integer has more digits than a numeral may have. -/
  | numeralTooLong (digits : Nat)
  /-- An array, or an object, is nested too deeply. -/
  | tooDeep (isArray : Bool)
  /-- The bytes of a file cannot be decoded. -/
  | undecodable (error : Text.DecodingError)
  deriving DecidableEq, Inhabited

/-- The wording of a refusal. -/
def ReadError.message : ReadError → String
  | malformed problem line column offset =>
    s!"{problem.message}: line {line} column {column} (char {offset})"
  | numeralTooLong digits =>
    s!"Exceeds the limit ({Numeral.maxDigits} digits) for integer string conversion: value has " ++
      s!"{digits} digits; use sys.set_int_max_str_digits() to increase the limit"
  | tooDeep isArray =>
    "maximum recursion depth exceeded while decoding a JSON " ++ (if isArray then "array" else "object") ++
      " from a unicode string"
  | undecodable error => error.message

/-- What stops the reader: a problem at an offset, a numeral that is too long, or too deep a nesting. -/
inductive Stop where
  | at (problem : Problem) (offset : Nat)
  | numeralTooLong (digits : Nat)
  | tooDeep (isArray : Bool)

/-- The rest of a document and the number of characters before it. -/
structure Cursor where
  offset : Nat
  rest : List Char

namespace Cursor

/-- The cursor `n` characters further on. -/
def advance (cur : Cursor) (n : Nat) : Cursor :=
  ⟨cur.offset + n, cur.rest.drop n⟩

/-- White space between the tokens of a document. -/
def isSpace (c : Char) : Bool :=
  c == ' ' || c == '\t' || c == '\n' || c == '\r'

/-- The cursor after the white space it stands at. -/
def skipSpace (cur : Cursor) : Cursor :=
  ⟨cur.offset + (cur.rest.takeWhile isSpace).length, cur.rest.dropWhile isSpace⟩

/-- Does the document continue with these characters? -/
def startsWith (cur : Cursor) (word : String) : Bool :=
  word.toList.isPrefixOf cur.rest

end Cursor

/-! ### Texts -/

/-- The character that an escape of one letter stands for. -/
def escapedChar? : Char → Option Char
  | '"' => some '"'
  | '\\' => some '\\'
  | '/' => some '/'
  | 'b' => some (Char.ofNat 8)
  | 'f' => some (Char.ofNat 12)
  | 'n' => some '\n'
  | 'r' => some '\r'
  | 't' => some '\t'
  | _ => none

/-- The code written by the four hexadecimal digits at the cursor. At least one more character must
    follow them. The problem is reported at the letter before the digits. -/
def readCode (cur : Cursor) : Except Stop Nat :=
  if cur.rest.length ≤ 4 then .error (.at .badUnicodeEscape (cur.offset - 1))
  else
    match Text.hexNumber? (cur.rest.take 4) with
    | some code => .ok code
    | none => .error (.at .badUnicodeEscape (cur.offset - 1))

/-- The code of a numeric escape whose digits start at the cursor, and the number of characters it
    takes from there. A high half followed by an escaped low one is a single code. -/
def readCodeEscape (cur : Cursor) : Except Stop (Nat × Nat) := do
  let code ← readCode cur
  match cur.rest.drop 4 with
  | '\\' :: 'u' :: rest =>
    if Text.isHighHalf code ∧ 4 < rest.length then do
      let low ← readCode (cur.advance 6)
      if Text.isLowHalf low then return (Text.joinHalves code low, 10) else return (code, 4)
    else return (code, 4)
  | _ => return (code, 4)

/-- The rest of a text whose opening quote is at offset `start`: its characters, in reverse order
    before `done`, and the cursor after the closing quote. -/
def readText (start : Nat) : (fuel : Nat) → (done : List Char) → Cursor → Except Stop (String × Cursor)
  | 0, _, _ => .error (.at .unterminatedText start)
  | fuel + 1, done, cur =>
    match cur.rest with
    | [] => .error (.at .unterminatedText start)
    | '"' :: _ => .ok (String.ofList done.reverse, cur.advance 1)
    | '\\' :: [] => .error (.at .unterminatedText start)
    | '\\' :: 'u' :: _ => do
      let (code, width) ← readCodeEscape (cur.advance 2)
      readText start fuel ((Text.hold code).reverse ++ done) (cur.advance (2 + width))
    | '\\' :: letter :: _ =>
      match escapedChar? letter with
      | some c => readText start fuel (c :: done) (cur.advance 2)
      | none => .error (.at .badEscape cur.offset)
    | c :: _ =>
      if c.toNat < 0x20 then .error (.at .controlCharacter cur.offset)
      else readText start fuel (c :: done) (cur.advance 1)

/-! ### Numbers -/

/-- The number written by ASCII digits. -/
def numberOf (digits : List Char) : Nat :=
  digits.foldl (fun n c => 10 * n + (c.toNat - 0x30)) 0

/-- The digits of the whole part at the start of the characters: a zero, or digits that start with
    another one. -/
def wholeDigits : List Char → List Char
  | '0' :: _ => ['0']
  | cs => cs.takeWhile Char.isDigit

/-- The digits of the fraction at the start of the characters, without the point; none if no digit
    follows the point. -/
def fractionDigits : List Char → List Char
  | '.' :: cs => cs.takeWhile Char.isDigit
  | _ => []

/-- The exponent at the start of the characters, and the number of characters it takes. -/
def exponentAt : List Char → Option (Int × Nat)
  | e :: cs =>
    if e == 'e' || e == 'E' then
      let (negative, signWidth, digits) :=
        match cs with
        | '-' :: ds => (true, 1, ds.takeWhile Char.isDigit)
        | '+' :: ds => (false, 1, ds.takeWhile Char.isDigit)
        | ds => (false, 0, ds.takeWhile Char.isDigit)
      if digits.isEmpty then none
      else
        let n : Int := numberOf digits
        some (if negative then -n else n, 1 + signWidth + digits.length)
    else none
  | [] => none

/-- The number at the cursor: an integer, or a binary64 number if it has a fraction or an exponent. -/
def readNumber (cur : Cursor) : Except Stop (Value × Cursor) :=
  let (negative, body) := match cur.rest with
    | '-' :: cs => (true, cs)
    | cs => (false, cs)
  let whole := wholeDigits body
  if whole.isEmpty then .error (.at .valueExpected cur.offset)
  else
    let fraction := fractionDigits (body.drop whole.length)
    let fractionWidth := if fraction.isEmpty then 0 else fraction.length + 1
    let exponent := exponentAt (body.drop (whole.length + fractionWidth))
    let signWidth := if negative then 1 else 0
    if fraction.isEmpty && exponent.isNone then
      if Numeral.maxDigits < whole.length then .error (.numeralTooLong whole.length)
      else
        let n : Int := numberOf whole
        .ok (.int (if negative then -n else n), cur.advance (signWidth + whole.length))
    else
      let (power, exponentWidth) := exponent.getD (0, 0)
      let x := Binary64.ofDecimal negative (numberOf (whole ++ fraction)) (power - fraction.length)
      .ok (.real x, cur.advance (signWidth + whole.length + fractionWidth + exponentWidth))

/-! ### Values -/

/-- The values that are written as words. -/
def wordValues : List (String × Value) :=
  [("null", .null), ("true", .bool true), ("false", .bool false), ("NaN", .real .notANumber),
   ("Infinity", .real (.infinite false)), ("-Infinity", .real (.infinite true))]

mutual

/-- The value at the cursor and the cursor after it. A text has less than `limit` characters, and
    there may be `depth` more levels of nesting. -/
def readValue (limit : Nat) : (fuel depth : Nat) → Cursor → Except Stop (Value × Cursor)
  | 0, _, cur => .error (.at .valueExpected cur.offset)
  | fuel + 1, depth, cur =>
    match cur.rest with
    | '"' :: _ => do
      let (s, cur) ← readText cur.offset limit [] (cur.advance 1)
      return (.str s, cur)
    | '[' :: _ =>
      if depth = 0 then .error (.tooDeep true)
      else
        let inside := (cur.advance 1).skipSpace
        match inside.rest with
        | ']' :: _ => .ok (.arr [], inside.advance 1)
        | _ => readItems limit fuel (depth - 1) [] inside
    | '\x7b' :: _ =>
      if depth = 0 then .error (.tooDeep false)
      else
        let inside := (cur.advance 1).skipSpace
        match inside.rest with
        | '\x7d' :: _ => .ok (.obj [], inside.advance 1)
        | _ => readMembers limit fuel (depth - 1) [] inside
    | _ =>
      match wordValues.find? fun word => cur.startsWith word.1 with
      | some (word, v) => .ok (v, cur.advance word.length)
      | none => readNumber cur

/-- The elements of an array from the cursor on, after those in `done` (in reverse order). -/
def readItems (limit : Nat) : (fuel depth : Nat) → (done : List Value) → Cursor →
    Except Stop (Value × Cursor)
  | 0, _, _, cur => .error (.at .valueExpected cur.offset)
  | fuel + 1, depth, done, cur => do
    let (v, cur) ← readValue limit fuel depth cur
    let cur := cur.skipSpace
    match cur.rest with
    | ']' :: _ => return (.arr (v :: done).reverse, cur.advance 1)
    | ',' :: _ => readItems limit fuel depth (v :: done) (cur.advance 1).skipSpace
    | _ => .error (.at .commaExpected cur.offset)

/-- The members of an object from the cursor on, after those in `done`. -/
def readMembers (limit : Nat) : (fuel depth : Nat) → (done : List (String × Value)) → Cursor →
    Except Stop (Value × Cursor)
  | 0, _, _, cur => .error (.at .keyExpected cur.offset)
  | fuel + 1, depth, done, cur =>
    match cur.rest with
    | '"' :: _ => do
      let (key, cur) ← readText cur.offset limit [] (cur.advance 1)
      let cur := cur.skipSpace
      match cur.rest with
      | ':' :: _ => do
        let (v, cur) ← readValue limit fuel depth (cur.advance 1).skipSpace
        let cur := cur.skipSpace
        let done := Entries.put done key v
        match cur.rest with
        | '\x7d' :: _ => return (.obj done, cur.advance 1)
        | ',' :: _ => readMembers limit fuel depth done (cur.advance 1).skipSpace
        | _ => .error (.at .commaExpected cur.offset)
      | _ => .error (.at .colonExpected cur.offset)
    | _ => .error (.at .keyExpected cur.offset)

end

/-! ### Documents -/

/-- The refusal of a document for what stopped the reader. -/
def Stop.toError (document : List Char) : Stop → ReadError
  | .at problem offset =>
    let before := Text.codes (document.take offset)
    let line := before.count '\n'.toNat + 1
    let column := (before.reverse.takeWhile (· ≠ '\n'.toNat)).length + 1
    .malformed problem line column before.length
  | .numeralTooLong digits => .numeralTooLong digits
  | .tooDeep isArray => .tooDeep isArray

/-- How many levels of nesting a document may have. -/
def maxDepth : Nat := 990

/-- The value of a document given by its characters, with so many levels of nesting. Each character
    accounts for at most two steps. -/
def readChars (depth : Nat) (document : List Char) : Except ReadError Value :=
  let cur := Cursor.skipSpace ⟨0, document⟩
  match readValue (document.length + 1) (2 * document.length + 2) depth cur with
  | .error stop => .error (stop.toError document)
  | .ok (v, cur) =>
    let cur := cur.skipSpace
    if cur.rest.isEmpty then .ok v
    else .error ((Stop.at .extraData cur.offset).toError document)

/-- U+FEFF, which marks the byte order of a file. -/
def byteOrderMark : Char := Char.ofNat 0xfeff

/-- The value of a document given as a text, with so many levels of nesting; the text must not begin
    with a byte-order mark. -/
def readWithin (depth : Nat) (text : String) : Except ReadError Value :=
  match text.toList with
  | c :: rest =>
    if c = byteOrderMark then .error ((Stop.at .byteOrderMark 0).toError (c :: rest))
    else readChars depth (c :: rest)
  | [] => readChars depth []

/-- The value of a document given as a text. -/
def read (text : String) : Except ReadError Value :=
  readWithin maxDepth text

/-- The value of a document given as the content of a file, which may begin with one byte-order mark.
    -/
def readFile (content : String) : Except ReadError Value :=
  match content.toList with
  | c :: rest =>
    if c = byteOrderMark then readChars maxDepth rest
    else
      match Text.decodeFile content with
      | .ok document => readChars maxDepth document
      | .error e => .error (.undecodable e)
  | [] => readChars maxDepth []

end RangeAudit.Wire
