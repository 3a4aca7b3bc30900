import Mathlib.Data.Nat.Digits.Defs
import RangeAudit.Proofs.Numeral.Characters
import RangeAudit.Proofs.Text.Trimming

namespace RangeAudit

/-!
# The grammar of numerals

A numeral may be written in many ways: blanks around it, a sign or none, digits of any script, an underscore
between two digits or none.  A spelling is one such way.  The texts that are read as integers are those of the
spellings with no more digits than a numeral may have, and each is read as what its spelling is worth.

* `Numeral.Spelling` — a numeral by its parts, its text and what it is worth;
* `Numeral.digits?_eq_some_iff`, `Numeral.magnitude?_eq_some_iff` — what is read as digits and as their number;
* `Numeral.ofChars?_eq_some_iff` — what is read as a number with a sign;
* `Numeral.parse?_eq_some_iff` — what is read as an integer.
-/

/-! ### Digits and blanks -/

namespace Text

/-- A digit of any script is no blank. -/
theorem isBlank_of_digitValue? {c : Char} {d : Nat} (h : digitValue? c = some d) : isBlank c = false := by
  -- No run of ten digits in the table has a blank in it.
  have htable : ∀ base ∈ digitZeros, (0x20 < base ∧ base + 10 ≤ 0x85) ∨ (0xa0 < base ∧ base + 10 ≤ 0x1680) ∨
      (0x1680 < base ∧ base + 10 ≤ 0x2000) ∨ 0x3000 < base := by decide
  unfold digitValue? at h
  split at h
  · split at h
    · rename_i hdigit
      exact Numeral.isBlank_of_isMark (by rw [Numeral.isMark, hdigit, Bool.or_true])
    · cases h
  · obtain ⟨base, hfind, -⟩ := Option.map_eq_some_iff.mp h
    have hrun := List.find?_some hfind
    simp only [Bool.and_eq_true, decide_eq_true_eq] at hrun
    have hbase := htable base (List.mem_of_find?_eq_some hfind)
    simp only [isBlank, Bool.or_eq_false_iff, Bool.and_eq_false_iff, decide_eq_false_iff_not,
      beq_eq_false_iff_ne]
    omega

/-- A digit of any script stands for a number below ten. -/
theorem digitValue?_lt {c : Char} {d : Nat} (h : digitValue? c = some d) : d < 10 := by
  unfold digitValue? at h
  split at h
  · split at h
    · rename_i hdigit
      have hbounds := Numeral.toNat_bounds_of_isDigit hdigit
      rw [Option.some.injEq] at h
      omega
    · cases h
  · obtain ⟨base, hfind, rfl⟩ := Option.map_eq_some_iff.mp h
    have hrun := List.find?_some hfind
    simp only [Bool.and_eq_true, decide_eq_true_eq] at hrun
    omega

end Text

namespace Numeral

/-! ### Spellings -/

/-- A decimal digit of any script: a character and the number that it stands for. -/
structure Digit where
  char : Char
  value : Nat
  value_eq : Text.digitValue? char = some value

/-- The sign of a numeral. -/
inductive Sign where
  | plus
  | minus
  deriving DecidableEq

/-- The characters of a sign, of which there may be none. -/
def signChars : Option Sign → List Char
  | none => []
  | some .plus => ['+']
  | some .minus => ['-']

/-- A further digit of a numeral, after an underscore or not. -/
structure NextDigit where
  underscored : Bool
  digit : Digit

/-- The characters of a further digit. -/
def NextDigit.chars (next : NextDigit) : List Char :=
  if next.underscored then ['_', next.digit.char] else [next.digit.char]

/-- A numeral by its parts, in the order in which they are written. -/
structure Spelling where
  front : List Char
  sign : Option Sign
  first : Digit
  others : List NextDigit
  back : List Char
  front_blank : ∀ c ∈ front, Text.isBlank c = true
  back_blank : ∀ c ∈ back, Text.isBlank c = true

namespace Spelling

/-- The digits of a numeral. -/
def digits (s : Spelling) : List Digit :=
  s.first :: s.others.map NextDigit.digit

/-- The characters of the digits. -/
def run (s : Spelling) : List Char :=
  s.first.char :: s.others.flatMap NextDigit.chars

/-- The characters of a numeral between the blanks. -/
def coreChars (s : Spelling) : List Char :=
  signChars s.sign ++ s.run

/-- The text of a numeral. -/
def text (s : Spelling) : String :=
  String.ofList (s.front ++ s.coreChars ++ s.back)

/-- The number that the digits write, in the decimal system. -/
def magnitude (s : Spelling) : Nat :=
  Nat.ofDigits 10 (s.digits.map Digit.value).reverse

/-- The integer that a numeral is worth. -/
def worth (s : Spelling) : Int :=
  if s.sign = some .minus then -(s.magnitude : Int) else s.magnitude

/-- The numeral has no more digits than a numeral may have. -/
def Admitted (s : Spelling) : Prop :=
  s.digits.length ≤ maxDigits

end Spelling

/-! ### Reading digits and signs -/

/-- A digit is not a mark that stands for no digit. -/
theorem Digit.char_ne (d : Digit) {mark : Char} (h : Text.digitValue? mark = none) : d.char ≠ mark := by
  rintro rfl
  rw [d.value_eq] at h
  cases h

/-- The value of digits, first to last, is that of the list reversed. -/
theorem ofDigits_eq (ds : List Nat) : ofDigits ds = Nat.ofDigits 10 ds.reverse := by
  rw [ofDigits, Nat.ofDigits_eq_foldr, List.foldr_reverse]
  congr 1
  funext n d
  exact Nat.add_comm _ _

/-- A digit before further ones: an underscore between them is passed over. -/
theorem digits?_cons (c : Char) (next : NextDigit) (others : List NextDigit) :
    digits? (c :: (next :: others).flatMap NextDigit.chars) =
      (Text.digitValue? c).bind fun d =>
        (digits? (next.digit.char :: others.flatMap NextDigit.chars)).map (d :: ·) := by
  rw [List.flatMap_cons, NextDigit.chars]
  cases next.underscored with
  | true => simp [digits?, Option.map_eq_bind]
  | false =>
    have hchar : next.digit.char ≠ '_' := next.digit.char_ne (by decide)
    rw [if_neg Bool.false_ne_true, List.singleton_append, digits?]
    · simp [Option.map_eq_bind]
    · simp
    · intro rest hrest
      exact hchar (List.cons.inj hrest).1

/-- Digits that are spelled out are read back, with underscores between them or without. -/
theorem digits?_spelled (first : Digit) (others : List NextDigit) :
    digits? (first.char :: others.flatMap NextDigit.chars) =
      some (first.value :: others.map fun next => next.digit.value) := by
  induction others generalizing first with
  | nil => simp [digits?, first.value_eq]
  | cons next others ih =>
    rw [digits?_cons, first.value_eq, ih]
    rfl

/-- What is read as digits: a digit, and further ones after an underscore or not. -/
theorem digits?_eq_some_iff {cs : List Char} {ds : List Nat} :
    digits? cs = some ds ↔ ∃ (first : Digit) (others : List NextDigit),
      cs = first.char :: others.flatMap NextDigit.chars ∧
        ds = first.value :: others.map fun next => next.digit.value := by
  constructor
  · intro h
    -- The reader's own cases: no digit, the last one, one before an underscore, one before another digit.
    fun_induction digits? cs generalizing ds with
    | case1 => cases h
    | case2 c =>
      obtain ⟨d, hd, rfl⟩ := Option.map_eq_some_iff.mp h
      exact ⟨⟨c, d, hd⟩, [], rfl, rfl⟩
    | case3 c rest ih =>
      obtain ⟨d, hd, hrest⟩ := Option.bind_eq_some_iff.mp h
      obtain ⟨more, hmore, hds⟩ := Option.bind_eq_some_iff.mp hrest
      obtain ⟨next, others, rfl, rfl⟩ := ih hmore
      obtain rfl := Option.some.inj hds
      exact ⟨⟨c, d, hd⟩, ⟨true, next⟩ :: others, rfl, rfl⟩
    | case4 c rest _ _ ih =>
      obtain ⟨d, hd, hrest⟩ := Option.bind_eq_some_iff.mp h
      obtain ⟨more, hmore, hds⟩ := Option.bind_eq_some_iff.mp hrest
      obtain ⟨next, others, rfl, rfl⟩ := ih hmore
      obtain rfl := Option.some.inj hds
      exact ⟨⟨c, d, hd⟩, ⟨false, next⟩ :: others, rfl, rfl⟩
  · rintro ⟨first, others, rfl, rfl⟩
    exact digits?_spelled first others

/-- What is read as a magnitude: digits, and not too many. -/
theorem magnitude?_eq_some_iff {cs : List Char} {m : Nat} :
    magnitude? cs = some m ↔ ∃ s : Spelling, s.run = cs ∧ s.Admitted ∧ s.magnitude = m := by
  simp only [magnitude?, Option.bind_eq_bind, Option.bind_eq_some_iff, digits?_eq_some_iff]
  constructor
  · rintro ⟨_, ⟨first, others, rfl, rfl⟩, hvalue⟩
    split at hvalue
    · rename_i hlength
      refine ⟨⟨[], none, first, others, [], by simp, by simp⟩, rfl, ?_, ?_⟩
      · simpa [Spelling.Admitted, Spelling.digits] using hlength
      · rw [← Option.some.inj hvalue, ofDigits_eq, Spelling.magnitude, Spelling.digits, List.map_cons,
          List.map_map]
        rfl
    · cases hvalue
  · rintro ⟨s, rfl, hadmitted, rfl⟩
    refine ⟨_, ⟨s.first, s.others, rfl, rfl⟩, ?_⟩
    rw [if_pos (by simpa [Spelling.Admitted, Spelling.digits] using hadmitted), ofDigits_eq, Spelling.magnitude,
      Spelling.digits, List.map_cons, List.map_map]
    rfl

/-- A minus sign turns the magnitude round. -/
theorem ofChars?_minus (rest : List Char) :
    ofChars? ('-' :: rest) = (magnitude? rest).map fun m : Nat => -(m : Int) := by
  rw [ofChars?]
  cases magnitude? rest <;> rfl

/-- A plus sign changes nothing. -/
theorem ofChars?_plus (rest : List Char) :
    ofChars? ('+' :: rest) = (magnitude? rest).map fun m : Nat => (m : Int) := by
  rw [ofChars?]
  cases magnitude? rest <;> rfl

/-- Without a sign the number is the magnitude. -/
theorem ofChars?_unsigned {cs : List Char} (hminus : ∀ rest, cs ≠ '-' :: rest) (hplus : ∀ rest, cs ≠ '+' :: rest) :
    ofChars? cs = (magnitude? cs).map fun m : Nat => (m : Int) := by
  rw [ofChars?]
  · cases magnitude? cs <;> rfl
  · exact hminus
  · exact hplus

/-- What starts with a digit has no sign. -/
theorem Spelling.run_ne_cons (s : Spelling) {mark : Char} (h : Text.digitValue? mark = none) (rest : List Char) :
    s.run ≠ mark :: rest :=
  fun heq => s.first.char_ne h (List.cons.inj heq).1

/-- What is read as a number with a sign or without one. -/
theorem ofChars?_eq_some_iff {cs : List Char} {n : Int} :
    ofChars? cs = some n ↔ ∃ s : Spelling, s.coreChars = cs ∧ s.Admitted ∧ s.worth = n := by
  constructor
  · intro h
    -- What is read depends on the first character only through the sign that it is.
    by_cases hminus : ∃ rest, cs = '-' :: rest
    · obtain ⟨rest, rfl⟩ := hminus
      rw [ofChars?_minus] at h
      obtain ⟨m, hm, rfl⟩ := Option.map_eq_some_iff.mp h
      obtain ⟨s, rfl, hadmitted, rfl⟩ := magnitude?_eq_some_iff.mp hm
      exact ⟨{ s with sign := some .minus }, rfl, hadmitted, rfl⟩
    by_cases hplus : ∃ rest, cs = '+' :: rest
    · obtain ⟨rest, rfl⟩ := hplus
      rw [ofChars?_plus] at h
      obtain ⟨m, hm, rfl⟩ := Option.map_eq_some_iff.mp h
      obtain ⟨s, rfl, hadmitted, rfl⟩ := magnitude?_eq_some_iff.mp hm
      exact ⟨{ s with sign := some .plus }, rfl, hadmitted, rfl⟩
    · rw [ofChars?_unsigned (not_exists.mp hminus) (not_exists.mp hplus)] at h
      obtain ⟨m, hm, rfl⟩ := Option.map_eq_some_iff.mp h
      obtain ⟨s, rfl, hadmitted, rfl⟩ := magnitude?_eq_some_iff.mp hm
      exact ⟨{ s with sign := none }, rfl, hadmitted, rfl⟩
  · rintro ⟨s, rfl, hadmitted, rfl⟩
    have hmagnitude : magnitude? s.run = some s.magnitude := magnitude?_eq_some_iff.mpr ⟨s, rfl, hadmitted, rfl⟩
    -- A numeral without a sign starts with a digit, so it is not taken for one with a sign.
    rw [Spelling.coreChars, Spelling.worth]
    cases s.sign with
    | none =>
      have hunsigned := ofChars?_unsigned (s.run_ne_cons (by decide)) (s.run_ne_cons (by decide))
      rw [hmagnitude] at hunsigned
      exact hunsigned
    | some sign =>
      cases sign with
      | plus => exact (ofChars?_plus s.run).trans (by rw [hmagnitude]; rfl)
      | minus => exact (ofChars?_minus s.run).trans (by rw [hmagnitude]; rfl)

/-! ### Reading texts -/

/-- Between its blanks a numeral has none: neither signs nor digits nor underscores are blanks. -/
theorem Spelling.isBlank_of_mem_coreChars {s : Spelling} {c : Char} (h : c ∈ s.coreChars) :
    Text.isBlank c = false := by
  have hdigit : ∀ d : Digit, Text.isBlank d.char = false := fun d => Text.isBlank_of_digitValue? d.value_eq
  rcases List.mem_append.mp h with h | h
  · have hsigns : ∀ sign, ((signChars sign).all fun d => !Text.isBlank d) = true := by
      rintro (_ | _ | _) <;> rfl
    simpa using List.all_eq_true.mp (hsigns s.sign) c h
  · rcases List.mem_cons.mp h with rfl | h
    · exact hdigit s.first
    · obtain ⟨next, -, hnext⟩ := List.mem_flatMap.mp h
      rw [NextDigit.chars] at hnext
      split at hnext
      · rcases List.mem_cons.mp hnext with rfl | hnext
        · decide
        · rw [List.mem_singleton.mp hnext]
          exact hdigit next.digit
      · rw [List.mem_singleton.mp hnext]
        exact hdigit next.digit

/-- The blanks around a numeral are what trimming takes away. -/
theorem Spelling.trimChars_text (s : Spelling) : Text.trimChars s.text.toList = s.coreChars := by
  have hcore : Text.IsCore Text.isBlank s.coreChars (s.front ++ s.coreChars ++ s.back) :=
    { stands := ⟨s.front, s.back, rfl, s.front_blank, s.back_blank⟩
      begins := fun c hc => isBlank_of_mem_coreChars (List.mem_of_head? hc)
      ends := fun c hc => isBlank_of_mem_coreChars (List.mem_of_getLast? hc) }
  rw [text, String.toList_ofList]
  exact hcore.trimWhere_eq

/-- What is read as an integer. -/
theorem parse?_eq_some_iff {text : String} {n : Int} :
    parse? text = some n ↔ ∃ s : Spelling, s.text = text ∧ s.Admitted ∧ s.worth = n := by
  constructor
  · intro h
    obtain ⟨s, hcore, hadmitted, rfl⟩ := ofChars?_eq_some_iff.mp h
    obtain ⟨⟨front, back, hsplit, hfront, hback⟩, -, -⟩ :=
      Text.isCore_trimWhere (p := Text.isBlank) text.toList
    refine ⟨{ s with front := front, back := back, front_blank := hfront, back_blank := hback }, ?_, hadmitted, rfl⟩
    show String.ofList (front ++ s.coreChars ++ back) = text
    rw [hcore]
    exact (congrArg String.ofList hsplit).symm.trans String.ofList_toList
  · rintro ⟨s, rfl, hadmitted, rfl⟩
    rw [parse?, s.trimChars_text]
    exact ofChars?_eq_some_iff.mpr ⟨s, rfl, hadmitted, rfl⟩

end Numeral

end RangeAudit
