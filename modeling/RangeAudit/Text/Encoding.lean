import RangeAudit.Text.Code
import RangeAudit.Text.Hex

namespace RangeAudit.Text

/-!
# Encodings

A file holds bytes. A document begins with two characters of ASCII, or is one such character, so the
zero bytes among its first four tell in which encoding it is. Halves of surrogate pairs are decoded,
alone or in pairs, but they cannot be encoded.

* `Encoding.ofBytes` : the encoding that the first bytes show;
* `decodeFile` : the characters of a file;
* `unencodable?` : what keeps a text from being written to a file.
-/

/-- The order of the bytes of a code: the most significant first, or last. -/
inductive ByteOrder where
  | big
  | little
  deriving DecidableEq, Inhabited

/-- How characters are written as bytes. -/
inductive Encoding where
  | utf8
  | utf16 (order : ByteOrder)
  | utf32 (order : ByteOrder)
  deriving DecidableEq, Inhabited

/-- The suffix that tells a byte order. -/
def ByteOrder.suffix : ByteOrder → String
  | big => "-be"
  | little => "-le"

/-- The name of an encoding. -/
def Encoding.name : Encoding → String
  | utf8 => "utf-8"
  | utf16 order => "utf-16" ++ order.suffix
  | utf32 order => "utf-32" ++ order.suffix

/-- The number that bytes write. -/
def ByteOrder.number (order : ByteOrder) (bytes : List UInt8) : Nat :=
  let ordered := match order with
    | big => bytes
    | little => bytes.reverse
  ordered.foldl (fun n b => 256 * n + b.toNat) 0

/-- The encoding of a document, by the zero bytes among the first four, or of two. -/
def Encoding.ofBytes : List UInt8 → Encoding
  | a :: b :: c :: d :: _ =>
    if a = 0 then if b = 0 then utf32 .big else utf16 .big
    else if b = 0 then if c = 0 ∧ d = 0 then utf32 .little else utf16 .little
    else utf8
  | [a, b] => if a = 0 then utf16 .big else if b = 0 then utf16 .little else utf8
  | _ => utf8

/-! ### Decoding -/

/-- What is wrong with bytes. -/
inductive DecodingProblem where
  /-- The last code has too few bytes. -/
  | truncated
  /-- The code is beyond the last character. -/
  | outOfRange
  deriving DecidableEq, Inhabited

/-- The wording of a problem. -/
def DecodingProblem.message : DecodingProblem → String
  | truncated => "truncated data"
  | outOfRange => "code point not in range(0x110000)"

/-- Bytes that cannot be decoded, and their offset. -/
structure DecodingError where
  encoding : Encoding
  problem : DecodingProblem
  offset : Nat
  bytes : List UInt8
  deriving DecidableEq, Inhabited

/-- The wording of a refusal to decode. -/
def DecodingError.message (e : DecodingError) : String :=
  let place := match e.bytes with
    | [b] => "byte 0x" ++ String.ofList (hexDigits 2 b.toNat) ++ s!" in position {e.offset}"
    | bytes => s!"bytes in position {e.offset}-{e.offset + bytes.length - 1}"
  s!"'{e.encoding.name}' codec can't decode {place}: {e.problem.message}"

/-- The codes written in two bytes each. -/
def codes16 (order : ByteOrder) (offset : Nat) : List UInt8 → Except DecodingError (List Nat)
  | a :: b :: rest => (codes16 order (offset + 2) rest).map fun codes => order.number [a, b] :: codes
  | [] => .ok []
  | bytes => .error ⟨.utf16 order, .truncated, offset, bytes⟩

/-- The codes written in four bytes each. -/
def codes32 (order : ByteOrder) (offset : Nat) : List UInt8 → Except DecodingError (List Nat)
  | a :: b :: c :: d :: rest =>
    let code := order.number [a, b, c, d]
    if 0x110000 ≤ code then .error ⟨.utf32 order, .outOfRange, offset, [a, b, c, d]⟩
    else (codes32 order (offset + 4) rest).map fun codes => code :: codes
  | [] => .ok []
  | bytes => .error ⟨.utf32 order, .truncated, offset, bytes⟩

/-- Codes with the pairs of halves joined. -/
def joinedPairs : List Nat → List Nat
  | high :: low :: rest =>
    if isHighHalf high && isLowHalf low then joinHalves high low :: joinedPairs rest
    else high :: joinedPairs (low :: rest)
  | codes => codes

/-- The bytes of a code in UTF-8. -/
def utf8Of (code : Nat) : List UInt8 :=
  String.utf8EncodeChar (Char.ofNat code)

/-- The characters of a file whose bytes are the UTF-8 form of `content`, in the encoding that they
    show. -/
def decodeFile (content : String) : Except DecodingError (List Char) :=
  let bytes := (codesOf content).flatMap utf8Of
  match Encoding.ofBytes bytes with
  | .utf8 => .ok content.toList
  | .utf16 order => (codes16 order 0 bytes).map fun codes => (joinedPairs codes).flatMap hold
  | .utf32 order => (codes32 order 0 bytes).map fun codes => codes.flatMap hold

/-! ### Encoding -/

/-- Halves of surrogate pairs that stand alone in a text: their offset and their codes. -/
structure EncodingError where
  offset : Nat
  codes : List Nat
  deriving DecidableEq, Inhabited

/-- The wording of a refusal to encode. -/
def EncodingError.message (e : EncodingError) : String :=
  let place := match e.codes with
    | [code] => "character '\\u" ++ String.ofList (hexDigits 4 code) ++ s!"' in position {e.offset}"
    | codes => s!"characters in position {e.offset}-{e.offset + codes.length - 1}"
  s!"'utf-8' codec can't encode {place}: surrogates not allowed"

/-- The first halves in a text, which keep it from being written to a file. -/
def unencodable? (text : String) : Option EncodingError :=
  let codes := codesOf text
  let whole := codes.takeWhile fun code => !isHalf code
  match (codes.drop whole.length).takeWhile isHalf with
  | [] => none
  | halves => some ⟨whole.length, halves⟩

end RangeAudit.Text
