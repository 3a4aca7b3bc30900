import RangeAudit.Text.Encoding

namespace RangeAudit.Text

/-!
# File names

The name of a file is a row of bytes. In a text it is given by the characters that the bytes write in
UTF-8; a byte that is no part of a character is given by a low half of a pair, from U+DC80 to U+DCFF. Other
halves, and the null character, cannot be part of a name.

* `pathBytes` : the bytes of a path, or why it is none;
* `nameOfBytes` : the text of a name;
* `shownPath` : a path as it is shown, with U+FFFD for what is no part of a character.
-/

/-! ### Bytes of a path -/

/-- Why a text is no path. -/
inductive PathError where
  | unencodable (error : EncodingError)
  | nullCharacter
  deriving DecidableEq, Inhabited

/-- The wording of a refusal. -/
def PathError.message : PathError → String
  | unencodable error => error.message
  | nullCharacter => "embedded null byte"

/-- Does the code give a byte that is no part of a character? -/
def isEscapedByte (code : Nat) : Bool :=
  0xdc80 ≤ code && code < 0xdd00

/-- The bytes of codes, the first of which is at `offset`. A half that gives no byte is refused
    together with the halves that follow it. -/
def bytesOfCodes (offset : Nat) : List Nat → Except EncodingError (List UInt8)
  | [] => .ok []
  | code :: rest =>
    if isHalf code then
      if isEscapedByte code then
        (bytesOfCodes (offset + 1) rest).map fun bytes => UInt8.ofNat (code - 0xdc00) :: bytes
      else .error ⟨offset, code :: rest.takeWhile isHalf⟩
    else (bytesOfCodes (offset + 1) rest).map fun bytes => utf8Of code ++ bytes

/-- The bytes of a path. -/
def pathBytes (path : String) : Except PathError (List UInt8) :=
  match bytesOfCodes 0 (codesOf path) with
  | .error e => .error (.unencodable e)
  | .ok bytes => if bytes.contains 0 then .error .nullCharacter else .ok bytes

/-! ### Characters of bytes -/

/-- The least and the largest value of each byte that must follow a first byte; nothing for a byte
    that cannot come first. -/
def followers? (first : UInt8) : Option (List (UInt8 × UInt8)) :=
  let any : UInt8 × UInt8 := (0x80, 0xbf)
  if first < 0x80 then some []
  else if first < 0xc2 then none
  else if first < 0xe0 then some [any]
  else if first = 0xe0 then some [(0xa0, 0xbf), any]
  else if first = 0xed then some [(0x80, 0x9f), any]
  else if first < 0xf0 then some [any, any]
  else if first = 0xf0 then some [(0x90, 0xbf), any, any]
  else if first < 0xf4 then some [any, any, any]
  else if first = 0xf4 then some [(0x80, 0x8f), any, any]
  else none

/-- The bytes at the front that lie within their bounds. -/
def following : List (UInt8 × UInt8) → List UInt8 → List UInt8
  | (low, high) :: bounds, b :: rest => if low ≤ b && b ≤ high then b :: following bounds rest else []
  | _, _ => []

/-- The code that a first byte and the bytes that follow it write. -/
def codeOfBytes (first : UInt8) (followers : List UInt8) : Nat :=
  let lead := match followers.length with
    | 0 => first.toNat
    | 1 => first.toNat - 0xc0
    | 2 => first.toNat - 0xe0
    | _ => first.toNat - 0xf0
  followers.foldl (fun n b => 64 * n + (b.toNat - 0x80)) lead

/-- The codes that bytes write; in between, the bytes that begin a character and do not complete it. -/
def utf8Units (bytes : List UInt8) : List (Except (List UInt8) Nat) :=
  match bytes with
  | [] => []
  | first :: rest =>
    match followers? first with
    | none => .error [first] :: utf8Units rest
    | some bounds =>
      let found := following bounds rest
      (if found.length = bounds.length then .ok (codeOfBytes first found) else .error (first :: found))
        :: utf8Units (rest.drop found.length)
termination_by bytes.length
decreasing_by
  · simp
  · simp only [List.length_drop, List.length_cons]
    omega

/-- The text of a name. -/
def nameOfBytes (bytes : List UInt8) : String :=
  ofCodes ((utf8Units bytes).flatMap fun
    | .ok code => [code]
    | .error lost => lost.map fun b => 0xdc00 + b.toNat)

/-- The text of a name in which every byte that can be part of a character is. -/
def canonicalName (name : String) : String :=
  match pathBytes name with
  | .ok bytes => nameOfBytes bytes
  | .error _ => name

/-- A path as it is shown. -/
def shownPath (path : String) : String :=
  match pathBytes path with
  | .ok bytes => ofCodes ((utf8Units bytes).map fun unit => unit.toOption.getD 0xfffd)
  | .error _ => path

/-- The number of bytes of a path. -/
def pathSize (path : String) : Nat :=
  match pathBytes path with
  | .ok bytes => bytes.length
  | .error _ => 0

end RangeAudit.Text
