import RangeAudit.Proofs.Risk.LineLevels
import RangeAudit.Proofs.Text.Trimming

namespace RangeAudit

/-!
# Lines with calls

A call is recognised in the text of a line: somewhere stands its word, then blanks, then an opening bracket.  The
search looks at one place after the other; here it is said which lines it finds.

* `CallAt` — a call in a line, after what stands before it;
* `LeavesContract`, `Asserts` — the lines that are looked for;
* `CallPattern.starts_iff`, `CallPattern.occursAfter_iff` — what the search finds at a place, and at any place;
* `CallPattern.occursIn_iff` — so it finds a call if and only if there is one;
* `ListsLines`, `callLines_listsLines` — the lines found are exactly those with calls, trimmed and in order.
-/

/-! ### Calls in a line -/

/-- After `before` stands the word of a call, then any number of blanks, then one of the brackets. -/
def CallAt (line word : String) (brackets before : List Char) : Prop :=
  ∃ blanks bracket after, line.toList = before ++ (word.toList ++ (blanks ++ bracket :: after)) ∧
    (∀ c ∈ blanks, Text.isBlank c = true) ∧ bracket ∈ brackets

/-- The line has a call that leaves the contract.  A call can also open with a brace, a payment cannot. -/
def LeavesContract (line : String) : Prop :=
  (∃ word ∈ [".call", ".delegatecall", ".staticcall"], ∃ before, CallAt line word ['(', '\x7b'] before) ∨
    ∃ word ∈ [".transfer", ".send"], ∃ before, CallAt line word ['('] before

/-- The line has an assertion, at its beginning or after a character that belongs to no word. -/
def Asserts (line : String) : Prop :=
  ∃ word ∈ ["require", "assert"], ∃ before, CallAt line word ['('] before ∧
    ∀ c ∈ before.getLast?, Text.isWordChar c = false

/-! ### What the search finds -/

namespace CallPattern

variable {p : CallPattern}

/-- No call starts at the end of a line. -/
theorem starts_nil : p.starts [] = false := by
  simp [starts]

/-- A search at one place: the blanks are passed over, since no bracket is a blank. -/
theorem starts_iff (hopens : ∀ b ∈ p.opens, Text.isBlank b = false) (cs : List Char) :
    p.starts cs = true ↔ ∃ blanks bracket after, cs = p.word.toList ++ (blanks ++ bracket :: after) ∧
      (∀ c ∈ blanks, Text.isBlank c = true) ∧ bracket ∈ p.opens := by
  rw [starts, Bool.and_eq_true, List.isPrefixOf_iff_prefix]
  constructor
  · rintro ⟨⟨tail, rfl⟩, hopen⟩
    rw [List.drop_left] at hopen
    -- The blanks after the word are all the blanks there are, so the next character is the bracket.
    have hsplit : tail = tail.takeWhile Text.isBlank ++ tail.dropWhile Text.isBlank :=
      List.takeWhile_append_dropWhile.symm
    cases hrest : tail.dropWhile Text.isBlank with
    | nil =>
      rw [hrest] at hopen
      cases hopen
    | cons bracket after =>
      rw [hrest] at hopen hsplit
      exact ⟨tail.takeWhile Text.isBlank, bracket, after, congrArg _ hsplit,
        fun c hc => List.mem_takeWhile_imp hc, List.contains_iff_mem.mp hopen⟩
  · rintro ⟨blanks, bracket, after, rfl, hblanks, hbracket⟩
    refine ⟨List.prefix_append _ _, ?_⟩
    rw [List.drop_left, List.dropWhile_append_of_pos hblanks,
      List.dropWhile_cons_of_neg (by simp [hopens bracket hbracket])]
    exact List.contains_iff_mem.mpr hbracket

/-- The last character before a place, one place further on. -/
theorem getLast?_cons_or (c : Char) (front : List Char) (before : Option Char) :
    (c :: front).getLast?.or before = front.getLast?.or (some c) := by
  rw [List.getLast?_cons]
  cases front.getLast? <;> rfl

/-- A search at all places after `before`. -/
theorem occursAfter_iff (before : Option Char) (cs : List Char) :
    p.occursAfter before cs = true ↔
      ∃ front rest, cs = front ++ rest ∧ p.mayFollow (front.getLast?.or before) = true ∧ p.starts rest = true := by
  -- On the characters left: an occurrence starts here, or further on with this one as its predecessor.
  induction cs generalizing before with
  | nil =>
    simp only [occursAfter, Bool.false_eq_true, false_iff]
    rintro ⟨front, rest, hsplit, -, hstarts⟩
    rw [(List.append_eq_nil_iff.mp hsplit.symm).2, starts_nil] at hstarts
    cases hstarts
  | cons c cs ih =>
    rw [occursAfter, Bool.or_eq_true, Bool.and_eq_true, ih]
    constructor
    · rintro (⟨hfollow, hstarts⟩ | ⟨front, rest, rfl, hfollow, hstarts⟩)
      · exact ⟨[], c :: cs, rfl, hfollow, hstarts⟩
      · exact ⟨c :: front, rest, rfl, by rwa [getLast?_cons_or], hstarts⟩
    · rintro ⟨front, rest, hsplit, hfollow, hstarts⟩
      cases front with
      | nil =>
        obtain rfl : c :: cs = rest := hsplit
        exact Or.inl ⟨hfollow, hstarts⟩
      | cons d front =>
        obtain ⟨rfl, rfl⟩ := List.cons.inj hsplit
        exact Or.inr ⟨front, rest, rfl, by rwa [getLast?_cons_or] at hfollow, hstarts⟩

/-- A word that must stand by itself does not follow another character of a word. -/
theorem mayFollow_iff (before : Option Char) :
    p.mayFollow before = true ↔ p.bounded = true → ∀ c ∈ before, Text.isWordChar c = false := by
  rw [mayFollow]
  cases before <;> cases p.bounded <;> simp

/-- A pattern occurs in a line if its call stands there, where it may. -/
theorem occursIn_iff (hopens : ∀ b ∈ p.opens, Text.isBlank b = false) (line : String) :
    p.occursIn line = true ↔ ∃ before, CallAt line p.word p.opens before ∧
      (p.bounded = true → ∀ c ∈ before.getLast?, Text.isWordChar c = false) := by
  simp only [occursIn, occursAfter_iff, starts_iff hopens, mayFollow_iff, Option.or_none]
  constructor
  · rintro ⟨before, rest, hsplit, hfollow, blanks, bracket, after, rfl, hcall⟩
    exact ⟨before, ⟨blanks, bracket, after, hsplit, hcall⟩, hfollow⟩
  · rintro ⟨before, ⟨blanks, bracket, after, hsplit, hcall⟩, hfollow⟩
    exact ⟨before, _, hsplit, hfollow, blanks, bracket, after, rfl, hcall⟩

/-- The same for any of several patterns. -/
theorem exists_occursIn_iff {patterns : List CallPattern}
    (h : (patterns.all fun p => p.opens.all fun b => !Text.isBlank b) = true) (line : String) :
    (∃ p ∈ patterns, p.occursIn line = true) ↔
      ∃ p ∈ patterns, ∃ before, CallAt line p.word p.opens before ∧
        (p.bounded = true → ∀ c ∈ before.getLast?, Text.isWordChar c = false) := by
  refine exists_congr fun p => and_congr_right fun hp => occursIn_iff (fun b hb => ?_) line
  simpa using List.all_eq_true.mp (List.all_eq_true.mp h p hp) b hb

/-- A line leaves the contract if one of the patterns for external calls occurs in it. -/
theorem leavesContract_iff (line : String) :
    LeavesContract line ↔ ∃ p ∈ externalCalls, p.occursIn line = true := by
  rw [exists_occursIn_iff (by decide)]
  simp [LeavesContract, externalCalls, or_assoc]

/-- A line asserts something if one of the patterns for assertions occurs in it. -/
theorem asserts_iff (line : String) : Asserts line ↔ ∃ p ∈ assertions, p.occursIn line = true := by
  rw [exists_occursIn_iff (by decide)]
  simp [Asserts, assertions]

end CallPattern

/-! ### The lines found -/

/-- A list has exactly the lines of a source that are looked for, each once and in order: their
    numbers, counted from one, and what trimming leaves of them. -/
structure ListsLines (wanted : String → Prop) (source : String) (found : List (Int × String)) : Prop where
  mem_iff : ∀ number text, (number, text) ∈ found ↔ ∃ (k : Nat) (line : String),
    (Text.linesOf source)[k]? = some line ∧ wanted line ∧ number = k + 1 ∧
      Text.IsCore Text.isBlank text.toList line.toList
  ascends : (Entries.keys found).Pairwise (· < ·)

/-- The lines in which a pattern occurs are listed, in order and with their texts. -/
theorem CallPattern.listsLines_matchingLines {patterns : List CallPattern} {wanted : String → Prop}
    (h : ∀ line, wanted line ↔ ∃ p ∈ patterns, p.occursIn line = true) (source : String) :
    ListsLines wanted source (matchingLines patterns source) where
  mem_iff := by
    intro number text
    simp only [matchingLines, Text.numberedLines, List.mem_map, List.mem_filter, List.mem_zipIdx_iff_getElem?,
      List.any_eq_true, ← h, ← Text.trim_eq_iff, Prod.exists, Prod.mk.injEq]
    constructor
    · rintro ⟨n, line, ⟨⟨content, k, hline, rfl, rfl⟩, hwanted⟩, rfl, rfl⟩
      exact ⟨k, content, hline, hwanted, by simp, rfl⟩
    · rintro ⟨k, line, hline, hwanted, rfl, rfl⟩
      exact ⟨k + 1, line, ⟨⟨line, k, hline, rfl, rfl⟩, hwanted⟩, by simp, rfl⟩
  ascends := pairwise_keys_matchingLines patterns source

/-- **Calls in a source.** The lines with calls that leave the contract, and the lines with assertions. -/
theorem callLines_listsLines (source : String) :
    ListsLines LeavesContract source (externalCallLines source) ∧
      ListsLines Asserts source (assertionLines source) :=
  ⟨CallPattern.listsLines_matchingLines CallPattern.leavesContract_iff source,
    CallPattern.listsLines_matchingLines CallPattern.asserts_iff source⟩

-- A word is not continued to its left, and any blanks may stand before the bracket.
example : assertionLines "xrequire(a);\n\u0020require\u00a0(b)\u0020" = [(2, "require\u00a0(b)")] := by
  decide +kernel

end RangeAudit
