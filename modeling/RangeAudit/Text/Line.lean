import RangeAudit.Text.Blank
import RangeAudit.Text.Code

namespace RangeAudit.Text

/-!
# Lines, occurrences and padding

A source text is divided at its line feeds and at nothing else, so that the lines joined by line
feeds give the text back (`joinWith_divide`).
-/

/-- Divide at every occurrence of `mark`; the pieces do not contain it. -/
def divide (mark : Char) : List Char → List (List Char)
  | [] => [[]]
  | c :: rest =>
    if c = mark then [] :: divide mark rest
    else
      match divide mark rest with
      | [] => [[c]]
      | piece :: pieces => (c :: piece) :: pieces

/-- The pieces joined by `mark`. -/
def joinWith (mark : Char) : List (List Char) → List Char
  | [] => []
  | [piece] => piece
  | piece :: pieces => piece ++ mark :: joinWith mark pieces

/-- There is always at least one piece. -/
theorem divide_ne_nil (mark : Char) (cs : List Char) : divide mark cs ≠ [] := by
  cases cs with
  | nil => simp [divide]
  | cons c rest =>
    simp only [divide]
    split
    · simp
    · split <;> simp

/-- Dividing and joining give the text back. -/
theorem joinWith_divide (mark : Char) (cs : List Char) : joinWith mark (divide mark cs) = cs := by
  induction cs with
  | nil => rfl
  | cons c rest ih =>
    simp only [divide]
    split
    · rename_i h
      subst h
      cases hd : divide c rest with
      | nil => exact absurd hd (divide_ne_nil c rest)
      | cons piece pieces => rw [hd] at ih; simp [joinWith, ih]
    · cases hd : divide mark rest with
      | nil => exact absurd hd (divide_ne_nil mark rest)
      | cons piece pieces =>
        rw [hd] at ih
        cases pieces with
        | nil => simpa [joinWith] using ih
        | cons next more => simpa [joinWith] using ih

/-- The lines of a text. -/
def linesOf (text : String) : List String :=
  (divide '\n' text.toList).map String.ofList

/-- The lines of a text with their numbers, counted from one. -/
def numberedLines (text : String) : List (Nat × String) :=
  (linesOf text).zipIdx.map fun line => (line.2 + 1, line.1)

/-- Does `needle` occur in a list? -/
def occursIn [BEq α] (needle : List α) : List α → Bool
  | [] => needle.isEmpty
  | c :: rest => needle.isPrefixOf (c :: rest) || occursIn needle rest

/-- Does `text` contain `part`? -/
def contains (text part : String) : Bool :=
  occursIn (codesOf part) (codesOf text)

/-- The characters without one final `last`, if they end in it. -/
def dropFinal (last : Char) (cs : List Char) : List Char :=
  match cs.reverse with
  | c :: rest => if c = last then rest.reverse else cs
  | [] => []

/-- Blanks in front of the text, up to `width` characters in all. -/
def padLeft (width : Nat) (text : String) : String :=
  String.ofList (List.replicate (width - text.length) ' ') ++ text

/-- Every occurrence of the character `c` replaced by a text. -/
def replaceChar (c : Char) (image : List Char) (text : String) : String :=
  String.ofList (text.toList.flatMap fun d => if d = c then image else [d])

/-- The text with its first character in upper case. -/
def capitalize (text : String) : String :=
  match text.toList with
  | [] => ""
  | c :: rest => String.ofList (c.toUpper :: rest)

/-- Cut at the last occurrence of `mark`: what stands before it and after it. Without one, nothing
    stands before. -/
def cutLast (mark : Char) (text : String) : String × String :=
  let tail := text.toList.reverse.takeWhile (· ≠ mark)
  match text.toList.reverse.dropWhile (· ≠ mark) with
  | [] => ("", text)
  | _ :: before => (String.ofList before.reverse, String.ofList tail.reverse)

/-- Cut at the first occurrence of `mark`: what stands before it and after it. -/
def cutFirst? (mark : Char) (text : String) : Option (String × String) :=
  match text.toList.dropWhile (· ≠ mark) with
  | [] => none
  | _ :: tail => some (String.ofList (text.toList.takeWhile (· ≠ mark)), String.ofList tail)

end RangeAudit.Text
