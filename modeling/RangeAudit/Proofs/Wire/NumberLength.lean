import RangeAudit.Proofs.Numeral.RoundTrip
import RangeAudit.Proofs.Outcomes
import RangeAudit.Wire.Reader

namespace RangeAudit

/-!
# The length of numbers in documents

The reader of documents refuses an integer with more digits than a numeral may have, and a text with so many
digits is no numeral.  So every integer that is taken from a document can be written as a numeral again.

* `Wire.Value.Fits` — a value in which every integer has no more digits than a numeral may have;
* `Wire.Value.Fits.of_int?` — then this holds of what is read as an integer, also from a text;
* `Wire.ReadsFitting`, `Wire.readsFitting` — what the reader returns is such a value, by induction on its steps;
* `Wire.fits_of_read` — hence the value of a document is.
-/

namespace Numeral

/-- Digits write a number below the power of ten with as many zeros. -/
theorem ofDigits_lt {ds : List Nat} (h : ∀ d ∈ ds, d < 10) : ofDigits ds < 10 ^ ds.length := by
  rw [ofDigits_eq, ← List.length_reverse]
  exact Nat.ofDigits_lt_base_pow_length (by decide) fun d hd => h d (List.mem_reverse.mp hd)

/-- An integer fits if it is written with a permitted number of digits. -/
theorem fits_of_natAbs_eq {n : Int} (ds : List Nat) (hvalue : n.natAbs = ofDigits ds) (hdigits : ∀ d ∈ ds, d < 10)
    (hlength : ds.length ≤ maxDigits) : Fits n := by
  rw [fits_iff, hvalue]
  exact Nat.lt_of_lt_of_le (ofDigits_lt hdigits) (Nat.pow_le_pow_right (by decide) hlength)

/-- What a permitted spelling is worth fits. -/
theorem Spelling.fits_worth {s : Spelling} (h : s.Admitted) : Fits s.worth := by
  refine fits_of_natAbs_eq (s.digits.map Digit.value) ?_ ?_ ?_
  · have hmagnitude : s.worth.natAbs = s.magnitude := by
      rw [worth]
      split <;> omega
    rw [hmagnitude, magnitude, ofDigits_eq]
  · intro d hd
    obtain ⟨digit, -, rfl⟩ := List.mem_map.mp hd
    exact Text.digitValue?_lt digit.value_eq
  · rw [List.length_map]
    exact h

end Numeral

namespace Wire

/-! ### Values -/

/-- Every integer in a value has no more digits than a numeral may have. -/
inductive Value.Fits : Value → Prop
  | null : Fits .null
  | bool (b : Bool) : Fits (.bool b)
  | int {n : Int} (h : Numeral.Fits n) : Fits (.int n)
  | real (x : Binary64) : Fits (.real x)
  | str (s : String) : Fits (.str s)
  | arr {items : List Value} (h : ∀ item ∈ items, Fits item) : Fits (.arr items)
  | obj {fields : List (String × Value)} (h : ∀ field ∈ fields, Fits field.2) : Fits (.obj fields)

namespace Value

variable {v : Value}

/-- The elements of an array fit with it. -/
theorem Fits.of_mem_items (h : v.Fits) {item : Value} (hitem : item ∈ v.items) : item.Fits := by
  cases h with
  | arr h => exact h item hitem
  | null | bool | int | real | str | obj => cases hitem

/-- The members of an object fit with it, and an absent one is no integer. -/
theorem Fits.field (h : v.Fits) (key : String) : (v.field key).Fits := by
  cases h with
  | @obj fields h =>
    show ((Entries.find? fields key).getD .null).Fits
    cases hfound : Entries.find? fields key with
    | none => exact .null
    | some member => exact h _ (Entries.mem_of_find? hfound)
  | null | bool | int | real | str | arr => exact .null

/-- What is read as an integer fits: a text is refused if it has too many digits. -/
theorem Fits.of_int? (h : v.Fits) {n : Int} (hn : v.int? = some n) : Numeral.Fits n := by
  rcases int?_eq_some_iff.mp hn with rfl | ⟨s, rfl, hadmitted, rfl⟩
  · cases h with
    | int h => exact h
  · exact Numeral.Spelling.fits_worth hadmitted

end Value

/-! ### The reader -/

/-- The digits of the whole part of a number are digits. -/
theorem isDigit_of_mem_wholeDigits {cs : List Char} {c : Char} (h : c ∈ wholeDigits cs) : c.isDigit = true := by
  unfold wholeDigits at h
  split at h
  · rw [List.mem_singleton.mp h]
    rfl
  · exact List.mem_takeWhile_imp h

/-- An integer is read from its whole part, if this is not too long. -/
theorem fits_numberOf {cs : List Char} (h : (wholeDigits cs).length ≤ Numeral.maxDigits) {n : Int}
    (hn : n.natAbs = numberOf (wholeDigits cs)) : Numeral.Fits n := by
  refine Numeral.fits_of_natAbs_eq ((wholeDigits cs).map fun c => c.toNat - 0x30) ?_ ?_ ?_
  · rw [hn, numberOf, Numeral.ofDigits, List.foldl_map]
  · intro d hd
    obtain ⟨c, hc, rfl⟩ := List.mem_map.mp hd
    have hbounds := Numeral.toNat_bounds_of_isDigit (isDigit_of_mem_wholeDigits hc)
    omega
  · rw [List.length_map]
    exact h

/-- A number that is read fits. -/
theorem fits_of_readNumber {cur next : Cursor} {v : Value} (h : readNumber cur = .ok (v, next)) : v.Fits := by
  unfold readNumber at h
  split at h
  dsimp only at h
  -- No digit is refused; a fraction or an exponent makes the number binary; too many digits are refused.
  rcases ite_eq_iff.mp h with ⟨-, hnone⟩ | ⟨-, hsome⟩
  · cases hnone
  rcases ite_eq_iff.mp hsome with ⟨-, hwhole⟩ | ⟨-, hreal⟩
  · rcases ite_eq_iff.mp hwhole with ⟨-, hlong⟩ | ⟨hlength, hshort⟩
    · cases hlong
    · cases hshort
      refine .int (fits_numberOf (Nat.not_lt.mp hlength) ?_)
      split <;> omega
  · cases hreal
    exact .real _

/-- A word stands for a value without integers. -/
theorem fits_of_mem_wordValues {word : String × Value} (h : word ∈ wordValues) : word.2.Fits := by
  simp only [wordValues, List.mem_cons, List.not_mem_nil, or_false] at h
  rcases h with rfl | rfl | rfl | rfl | rfl | rfl
  · exact .null
  · exact .bool true
  · exact .bool false
  all_goals exact .real _

/-- With so many steps, each of the three readers returns a value that fits, if what it has read before does. -/
structure ReadsFitting (limit fuel : Nat) : Prop where
  value : ∀ {depth cur v next}, readValue limit fuel depth cur = .ok (v, next) → v.Fits
  items : ∀ {depth done cur v next}, (∀ item ∈ done, Value.Fits item) →
    readItems limit fuel depth done cur = .ok (v, next) → v.Fits
  members : ∀ {depth done cur v next}, (∀ field ∈ done, Value.Fits (Prod.snd field)) →
    readMembers limit fuel depth done cur = .ok (v, next) → v.Fits

variable {limit fuel depth : Nat} {cur next : Cursor} {v : Value}

/-- **Step lemma.** One step more, for a value. -/
theorem ReadsFitting.value_succ (ih : ReadsFitting limit fuel)
    (h : readValue limit (fuel + 1) depth cur = .ok (v, next)) : v.Fits := by
  rw [readValue] at h
  split at h
  · obtain ⟨⟨s, _⟩, -, hreturn⟩ := Except.bind_eq_ok_iff.mp h
    cases hreturn
    exact .str s
  · split at h
    · cases h
    · dsimp only at h
      split at h
      · cases h
        exact .arr fun item hitem => absurd hitem List.not_mem_nil
      · exact ih.items (fun item hitem => absurd hitem List.not_mem_nil) h
  · split at h
    · cases h
    · dsimp only at h
      split at h
      · cases h
        exact .obj fun field hfield => absurd hfield List.not_mem_nil
      · exact ih.members (fun field hfield => absurd hfield List.not_mem_nil) h
  · split at h
    · rename_i hword
      cases h
      exact fits_of_mem_wordValues (List.mem_of_find?_eq_some hword)
    · exact fits_of_readNumber h

/-- **Step lemma.** One step more, for the elements of an array. -/
theorem ReadsFitting.items_succ (ih : ReadsFitting limit fuel) {done : List Value}
    (hdone : ∀ item ∈ done, item.Fits) (h : readItems limit (fuel + 1) depth done cur = .ok (v, next)) :
    v.Fits := by
  rw [readItems] at h
  obtain ⟨⟨item, after⟩, hitem, hrest⟩ := Except.bind_eq_ok_iff.mp h
  have hall : ∀ other ∈ item :: done, other.Fits := List.forall_mem_cons.mpr ⟨ih.value hitem, hdone⟩
  dsimp only at hrest
  split at hrest
  · cases hrest
    exact .arr fun other hother => hall other (List.mem_reverse.mp hother)
  · exact ih.items hall hrest
  · cases hrest

/-- **Step lemma.** One step more, for the members of an object. -/
theorem ReadsFitting.members_succ (ih : ReadsFitting limit fuel) {done : List (String × Value)}
    (hdone : ∀ field ∈ done, field.2.Fits) (h : readMembers limit (fuel + 1) depth done cur = .ok (v, next)) :
    v.Fits := by
  rw [readMembers] at h
  split at h
  · obtain ⟨⟨key, after⟩, -, hcolon⟩ := Except.bind_eq_ok_iff.mp h
    dsimp only at hcolon
    split at hcolon
    · obtain ⟨⟨member, rest⟩, hmember, hrest⟩ := Except.bind_eq_ok_iff.mp hcolon
      -- A repeated key takes its new value in its old place.
      have hall : ∀ field ∈ Entries.put done key member, field.2.Fits := by
        intro field hfield
        rcases Entries.mem_put hfield with rfl | hold
        · exact ih.value hmember
        · exact hdone field hold
      dsimp only at hrest
      split at hrest
      · cases hrest
        exact .obj hall
      · exact ih.members hall hrest
      · cases hrest
    · cases hcolon
  · cases h

/-- **Run lemma.** Whatever the reader returns fits, by induction on the steps that it may take. -/
theorem readsFitting (limit fuel : Nat) : ReadsFitting limit fuel := by
  induction fuel with
  | zero => exact ⟨by simp [readValue], by simp [readItems], by simp [readMembers]⟩
  | succ fuel ih => exact ⟨ih.value_succ, ih.items_succ, ih.members_succ⟩

/-- The value of a document fits, whatever the depth to which it may be nested. -/
theorem fits_of_readChars {depth : Nat} {document : List Char} {v : Value}
    (h : readChars depth document = .ok v) : v.Fits := by
  unfold readChars at h
  dsimp only at h
  split at h
  · cases h
  · rename_i hread
    split at h
    · cases h
      exact (readsFitting _ _).value hread
    · cases h

/-- **Documents hold no integer that is too long to be written**, whether they are given as a text or as the content
    of a file. -/
theorem fits_of_read {text : String} {v : Value} (h : read text = .ok v ∨ readFile text = .ok v) : v.Fits := by
  rcases h with h | h
  · unfold read readWithin at h
    split at h
    · split at h
      · cases h
      · exact fits_of_readChars h
    · exact fits_of_readChars h
  · unfold readFile at h
    split at h
    · -- A mark is skipped; otherwise the encoding has to be found first.
      split at h
      · exact fits_of_readChars h
      · split at h
        · exact fits_of_readChars h
        · cases h
    · exact fits_of_readChars h

end Wire

end RangeAudit
