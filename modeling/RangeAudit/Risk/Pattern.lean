import RangeAudit.Text.Line
import RangeAudit.Text.WordChar

namespace RangeAudit

/-!
# Calls in a source text

Calls are found by their words: a word, any number of blanks, an opening bracket. A bounded word must
not continue a word to its left.
-/

/-- A word that is followed by an opening bracket, with blanks between. -/
structure CallPattern where
  word : String
  opens : List Char
  bounded : Bool
  deriving DecidableEq, Inhabited

namespace CallPattern

/-- The calls that leave the contract. -/
def externalCalls : List CallPattern :=
  [⟨".call", ['(', '\x7b'], false⟩, ⟨".delegatecall", ['(', '\x7b'], false⟩,
   ⟨".staticcall", ['(', '\x7b'], false⟩, ⟨".transfer", ['('], false⟩, ⟨".send", ['('], false⟩]

/-- The calls that narrow domains. -/
def assertions : List CallPattern :=
  [⟨"require", ['('], true⟩, ⟨"assert", ['('], true⟩]

/-- Do the characters start with the word, blanks and an opening bracket? -/
def starts (p : CallPattern) (cs : List Char) : Bool :=
  p.word.toList.isPrefixOf cs &&
    match (cs.drop p.word.toList.length).dropWhile Text.isBlank with
    | c :: _ => p.opens.contains c
    | [] => false

/-- May the word start after this character? -/
def mayFollow (p : CallPattern) (before : Option Char) : Bool :=
  !p.bounded || !before.any Text.isWordChar

/-- Does the call occur in the characters, which stand after `before`? -/
def occursAfter (p : CallPattern) (before : Option Char) : List Char → Bool
  | [] => false
  | c :: rest => (p.mayFollow before && p.starts (c :: rest)) || p.occursAfter (some c) rest

/-- Does the call occur in a line? -/
def occursIn (p : CallPattern) (line : String) : Bool :=
  p.occursAfter none line.toList

/-- The lines of a source in which one of the calls occurs: their numbers and trimmed texts. -/
def matchingLines (patterns : List CallPattern) (source : String) : List (Int × String) :=
  ((Text.numberedLines source).filter fun line => patterns.any fun p => p.occursIn line.2).map
    fun line => ((line.1 : Int), Text.trim line.2)

end CallPattern

/-- The lines with calls that leave the contract. -/
def externalCallLines (source : String) : List (Int × String) :=
  CallPattern.matchingLines CallPattern.externalCalls source

/-- The lines with calls that narrow domains. -/
def assertionLines (source : String) : List (Int × String) :=
  CallPattern.matchingLines CallPattern.assertions source

end RangeAudit
