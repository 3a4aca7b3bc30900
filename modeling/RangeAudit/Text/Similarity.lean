import RangeAudit.Text.Code

namespace RangeAudit.Text

/-!
# Similar words

How much two words have in common is the number of characters in the blocks that they share: the longest
block, and the same again on either side of it. A word is close to another one if the shared characters
are at least three fifths of all the characters of the two.

* `shared` : the number of shared characters;
* `closest` : the words that are closest to a misspelled one.
-/

/-- The length of the common beginning. -/
def commonLength : List Nat → List Nat → Nat
  | c :: a, d :: b => if c = d then commonLength a b + 1 else 0
  | _, _ => 0

/-- A block that two words share: where it starts in either of them, and its length. -/
structure Block where
  left : Nat
  right : Nat
  length : Nat
  deriving DecidableEq, Inhabited

/-- The longest block that two words share. Of several the leftmost counts, by its place in the first
    word and then in the second. -/
def longestBlock (a b : List Nat) : Block :=
  let starts := (List.range a.length).flatMap fun i => (List.range b.length).map fun j => (i, j)
  starts.foldl (fun best start =>
    let length := commonLength (a.drop start.1) (b.drop start.2)
    if best.length < length then ⟨start.1, start.2, length⟩ else best) ⟨0, 0, 0⟩

/-- The number of shared characters, if at most `fuel` blocks lie on top of each other. -/
def sharedWithin : (fuel : Nat) → (a b : List Nat) → Nat
  | 0, _, _ => 0
  | fuel + 1, a, b =>
    let block := longestBlock a b
    if block.length = 0 then 0
    else
      sharedWithin fuel (a.take block.left) (b.take block.right) + block.length
        + sharedWithin fuel (a.drop (block.left + block.length)) (b.drop (block.right + block.length))

/-- The number of shared characters. On either side of a block the words are shorter, so there are no
    more blocks on top of each other than the first word has characters. -/
def shared (a b : String) : Nat :=
  sharedWithin (size a) (codesOf a) (codesOf b)

/-- Is a candidate close to a word? No more can be shared than the shorter of the two has. -/
def isClose (word candidate : String) : Bool :=
  let all := size candidate + size word
  3 * all ≤ 10 * min (size candidate) (size word) && 3 * all ≤ 10 * shared candidate word

/-- Is the candidate `a` closer to a word than the candidate `b`? Of two that are equally close the
    later one in the alphabet counts as closer. -/
def isCloser (word a b : String) : Bool :=
  let left := shared a word * (size b + size word)
  let right := shared b word * (size a + size word)
  right < left || (left == right && precedes b a)

/-- The candidates that are closest to a word, at most three, in alphabetical order. -/
def closest (word : String) (candidates : List String) : List String :=
  let close := (candidates.filter (isClose word)).mergeSort fun a b => !isCloser word b a
  (close.take 3).mergeSort inOrder

end RangeAudit.Text
