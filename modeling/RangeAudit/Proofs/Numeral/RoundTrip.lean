import RangeAudit.Proofs.Numeral.Grammar
import RangeAudit.Wire.Field

namespace RangeAudit

/-!
# Writing and reading numerals

The numeral of an integer is one of the spellings of that integer; others have zeros in front of the digits, a plus
sign, underscores between the digits and blanks around the whole.  Each of them is read back as the integer, as long
as it has no more digits than a numeral may have.

* `Numeral.Spelling.Adorns`, `Numeral.Spelling.worth_of_adorns` — the spellings of an integer, and what they
  are worth;
* `Numeral.Fits` — an integer has no more digits than a numeral may have;
* `Numeral.parse?_render` — the numeral of such an integer is read back;
* `Wire.Value.int?_reads_exactly_numerals` — the values that are read as integers.
-/

namespace Numeral

/-! ### The spellings of an integer -/

/-- A spelling is that of the numeral of an integer, but for zeros in front of the digits, a plus
    sign, underscores and blanks. -/
def Spelling.Adorns (s : Spelling) (n : Int) : Prop :=
  ∃ (zeros : Nat) (digits : List Char),
    (render n).toList = (if s.sign = some .minus then ['-'] else []) ++ digits ∧
      s.digits.map Digit.char = List.replicate zeros '0' ++ digits

/-- ASCII digits are worth what they write. -/
theorem map_value_of_isDigit {ds : List Digit} (h : ∀ c ∈ ds.map Digit.char, c.isDigit = true) :
    ds.map Digit.value = (ds.map Digit.char).map fun c => c.toNat - 0x30 := by
  rw [List.map_map]
  refine List.map_congr_left fun d hd => ?_
  have hvalue := digitValue?_of_isDigit (h d.char (List.mem_map_of_mem hd))
  rw [d.value_eq] at hvalue
  exact Option.some.inj hvalue

/-- The sign and the digits of an adorned numeral are those of the integer. -/
theorem Spelling.Adorns.sign_and_digits {s : Spelling} {n : Int} (h : s.Adorns n) :
    (s.sign = some .minus ↔ n < 0) ∧
      ∃ zeros, s.digits.map Digit.char = List.replicate zeros '0' ++ Nat.toDigits 10 n.natAbs := by
  obtain ⟨zeros, digits, hrender, hdigits⟩ := h
  -- The sign can be read off the first character, since a digit is never a minus.
  have hminus : '-' ∉ digits := by
    intro hmem
    have hchar : '-' ∈ s.digits.map Digit.char := by
      rw [hdigits]
      exact List.mem_append_right _ hmem
    obtain ⟨d, -, hd⟩ := List.mem_map.mp hchar
    exact d.char_ne (by decide) hd
  have hsign : s.sign = some .minus ↔ n < 0 := by
    rw [← head?_render_eq_minus_iff, hrender]
    split
    · rename_i h
      simp [h]
    · rename_i h
      simp only [h, false_iff, List.nil_append]
      exact fun hhead => hminus (List.mem_of_head? hhead)
  refine ⟨hsign, zeros, ?_⟩
  rw [render_toList, if_congr hsign rfl rfl, List.append_cancel_left_eq] at hrender
  rw [hdigits, hrender]

/-- An adorned numeral is worth the integer. -/
theorem Spelling.worth_of_adorns {s : Spelling} {n : Int} (h : s.Adorns n) : s.worth = n := by
  obtain ⟨hsign, zeros, hdigits⟩ := h.sign_and_digits
  -- The digits are those Lean writes, so their values are their distance to the digit zero.
  have hascii : ∀ c ∈ s.digits.map Digit.char, c.isDigit = true := by
    intro c hc
    rw [hdigits] at hc
    rcases List.mem_append.mp hc with hc | hc
    · rw [List.eq_of_mem_replicate hc]
      rfl
    · exact isDigit_of_mem_toDigits hc
  have hmagnitude : s.magnitude = n.natAbs := by
    -- Leading zeros stand last in the reversed list and weigh nothing.
    calc s.magnitude
        = Nat.ofDigits 10 ((List.replicate zeros '0' ++ Nat.toDigits 10 n.natAbs).map
            fun c => c.toNat - 0x30).reverse := by
          rw [magnitude, map_value_of_isDigit hascii, hdigits]
      _ = Nat.ofDigits 10 ((Nat.toDigits 10 n.natAbs).map fun c => c.toNat - 0x30).reverse := by
          rw [List.map_append, List.map_replicate, List.reverse_append, List.reverse_replicate]
          exact Nat.ofDigits_append_replicate_zero _
      _ = n.natAbs := by rw [← ofDigits_eq, ofDigits_map_toDigits]
  rw [worth, hmagnitude]
  split
  · have hneg := hsign.mp ‹_›
    omega
  · have hnonneg : ¬ n < 0 := fun hneg => ‹¬ _› (hsign.mpr hneg)
    omega

/-- Characters that are digits are spelled out by digits. -/
theorem exists_map_char {cs : List Char} (h : ∀ c ∈ cs, c.isDigit = true) :
    ∃ ds : List Digit, ds.map Digit.char = cs := by
  induction cs with
  | nil => exact ⟨[], rfl⟩
  | cons c rest ih =>
    obtain ⟨ds, rfl⟩ := ih fun d hd => h d (List.mem_cons_of_mem c hd)
    exact ⟨⟨c, _, digitValue?_of_isDigit (h c List.mem_cons_self)⟩ :: ds, rfl⟩

/-- A numeral with nothing that could be left out. -/
def Spelling.bare (sign : Option Sign) (first : Digit) (others : List Digit) : Spelling where
  front := []
  sign := sign
  first := first
  others := others.map fun d => ⟨false, d⟩
  back := []
  front_blank := nofun
  back_blank := nofun

/-- A bare numeral has the given digits. -/
theorem Spelling.digits_bare (sign : Option Sign) (first : Digit) (others : List Digit) :
    (bare sign first others).digits = first :: others := by
  show first :: (others.map fun d => (⟨false, d⟩ : NextDigit)).map NextDigit.digit = _
  rw [List.map_map]
  exact congrArg (first :: ·) (List.map_id others)

/-- A bare numeral has nothing but its sign and its digits. -/
theorem Spelling.toList_text_bare (sign : Option Sign) (first : Digit) (others : List Digit) :
    (bare sign first others).text.toList = signChars sign ++ (first :: others).map Digit.char := by
  have hrun : (bare sign first others).run = (first :: others).map Digit.char := by
    show first.char :: (others.map fun d => (⟨false, d⟩ : NextDigit)).flatMap NextDigit.chars = _
    rw [List.flatMap_map]
    exact congrArg (first.char :: ·) List.map_eq_flatMap.symm
  rw [text, String.toList_ofList, coreChars, hrun]
  exact List.append_nil _

/-- The numeral of an integer is itself a spelling of it, with nothing added. -/
theorem exists_spelling_of_render (n : Int) : ∃ s : Spelling, s.text = render n ∧ s.Adorns n ∧
    s.digits.length = (Nat.repr n.natAbs).length := by
  obtain ⟨ds, hds⟩ := exists_map_char fun c => isDigit_of_mem_toDigits (n := n.natAbs)
  have hne : ds ≠ [] := by
    rintro rfl
    exact Nat.toDigits_ne_nil hds.symm
  obtain ⟨first, others, rfl⟩ := List.exists_cons_of_ne_nil hne
  refine ⟨.bare (if n < 0 then some .minus else none) first others, ?_, ⟨0, Nat.toDigits 10 n.natAbs, ?_, ?_⟩, ?_⟩
  · rw [← String.toList_inj, Spelling.toList_text_bare, hds, render_toList]
    split <;> rfl
  · rw [render_toList, Spelling.bare]
    split <;> rfl
  · rw [Spelling.digits_bare, hds]
    rfl
  · rw [Spelling.digits_bare, ← List.length_map Digit.char, hds, ← Nat.toList_repr, String.length_toList]

/-- **Round trip.** The numeral of an integer is read back. -/
theorem parse?_render {n : Int} (h : Fits n) : parse? (render n) = some n := by
  obtain ⟨s, htext, hadorns, hlength⟩ := exists_spelling_of_render n
  have hadmitted : s.Admitted := by
    rw [Spelling.Admitted, hlength]
    exact h
  exact parse?_eq_some_iff.mpr ⟨s, htext, hadmitted, Spelling.worth_of_adorns hadorns⟩

end Numeral

/-! ### Values that are read as integers -/

namespace Wire.Value

open Numeral (Spelling)

/-- An integer is read from itself, and from a text that is a numeral of this worth. -/
theorem int?_eq_some_iff {v : Value} {n : Int} :
    v.int? = some n ↔ v = int n ∨ ∃ s : Spelling, v = str s.text ∧ s.Admitted ∧ s.worth = n := by
  cases v with
  | int m => simp [int?]
  | str text =>
    simp only [int?, Numeral.parse?_eq_some_iff, reduceCtorEq, false_or, str.injEq, eq_comm (a := text)]
  | null | bool | real | arr | obj => simp [int?]

/-- **Integers on the wire.** A value is read as an integer exactly if it is one, or a text that
    spells one with no more digits than a numeral may have; for every other value, a default is taken.
    In particular the numeral of an integer is read back, also with zeros in front, a plus sign,
    underscores between its digits and blanks around it. -/
theorem int?_reads_exactly_numerals :
    (∀ (v : Value) (n : Int), v.int? = some n ↔
      v = int n ∨ ∃ s : Spelling, v = str s.text ∧ s.Admitted ∧ s.worth = n) ∧
    (∀ (v : Value) (default : Option Int), (∀ n, v ≠ int n) →
      (∀ s : Spelling, s.Admitted → v ≠ str s.text) → v.int?.or default = default) ∧
    (∀ (n : Int) (s : Spelling), s.Adorns n → s.Admitted → (str s.text).int? = some n) ∧
    ∀ n : Int, (int n).int? = some n ∧ (Numeral.Fits n → (str (Numeral.render n)).int? = some n) := by
  refine ⟨fun v n => int?_eq_some_iff, ?_, ?_, ?_⟩
  · intro v default hint hspelled
    have hnone : v.int? = none := by
      rw [Option.eq_none_iff_forall_ne_some]
      intro n hn
      rcases int?_eq_some_iff.mp hn with rfl | ⟨s, rfl, hadmitted, -⟩
      · exact hint n rfl
      · exact hspelled s hadmitted rfl
    rw [hnone, Option.none_or]
  · intro n s hadorns hadmitted
    exact int?_eq_some_iff.mpr (Or.inr ⟨s, rfl, hadmitted, Spelling.worth_of_adorns hadorns⟩)
  · exact fun n => ⟨rfl, Numeral.parse?_render⟩

/-- The numeral of 42 between two blanks, with a plus sign, a zero in front and an underscore behind it. -/
def spellingOfFortyTwo : Spelling where
  front := [' ']
  sign := some .plus
  first := ⟨'0', 0, by decide⟩
  others := [⟨true, '4', 4, by decide⟩, ⟨false, '2', 2, by decide⟩]
  back := ['\n']
  front_blank := List.forall_mem_singleton.mpr rfl
  back_blank := List.forall_mem_singleton.mpr rfl

/-- A numeral with blanks, a sign, a leading zero and an underscore is read; a truth value is not. -/
theorem int?_reads_exactly_numerals_of_fortyTwo :
    (spellingOfFortyTwo.Adorns 42 ∧ spellingOfFortyTwo.Admitted ∧ (str " +0_42\n").int? = some 42) ∧
      (Numeral.Fits (-42) ∧ (str (Numeral.render (-42))).int? = some (-42)) ∧
      (∀ n, bool true ≠ int n) ∧ (∀ s : Spelling, s.Admitted → bool true ≠ str s.text) ∧
      (bool true).int?.or (some 7) = some 7 := by
  have hadorns : spellingOfFortyTwo.Adorns 42 := ⟨1, ['4', '2'], by decide +kernel, rfl⟩
  have hadmitted : spellingOfFortyTwo.Admitted := by
    show 3 ≤ Numeral.maxDigits
    decide
  have hfits : Numeral.Fits (-42) := by decide +kernel
  have hint : ∀ n, bool true ≠ int n := nofun
  have hspelled : ∀ s : Spelling, s.Admitted → bool true ≠ str s.text := nofun
  obtain ⟨-, hdefault, hspelling, hnumeral⟩ := int?_reads_exactly_numerals
  exact ⟨⟨hadorns, hadmitted, hspelling 42 spellingOfFortyTwo hadorns hadmitted⟩,
    ⟨hfits, (hnumeral (-42)).2 hfits⟩, hint, hspelled, hdefault (bool true) (some 7) hint hspelled⟩

-- Underscores stand only between digits; these may be of any script.
example : (str "\u0664_\u0662").int? = some 42 ∧ (str "4__2").int? = none ∧ (str "42_").int? = none := by
  decide +kernel

end Wire.Value

end RangeAudit
