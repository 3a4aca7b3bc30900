import Mathlib.Algebra.Order.BigOperators.Group.List
import Mathlib.Algebra.Order.Ring.Nat
import RangeAudit.Config
import RangeAudit.Proofs.Domain.Writing
import RangeAudit.Proofs.Outcomes

namespace RangeAudit

/-!
# How long the texts of a range are

The text for display is the canonical one with other texts in the place of its numbers, so it is longer or shorter
by as much as these are.  A name is shorter than its number.  An abbreviation has twelve characters; only a number
with less than six is cut down to fewer, but then to more than it had.  So to be cut down makes a number longer if
it has less than twelve characters, and never otherwise.

* `ValueRange.numbersLength`, `ValueRange.length_renderWith` — the length of a text is that of its numbers and of
  what stands around them;
* `ValueRange.length_shortNumber_le_iff` — the numbers that are not lengthened;
* `ValueRange.length_short_le_iff` — the ranges whose text is not lengthened;
* `Config.one_le_shortDigits` — the most characters that a number may have by a configuration;
* `ValueRange.length_short_le_exact_iff` — the configurations under which no text is lengthened.
-/

/-- Texts that are each longer by some characters are longer by all of these when they are joined. -/
theorem length_intercalate_map (mark : String) {write bare : α → String} {extra : α → Nat}
    (h : ∀ x, (write x).length = (bare x).length + extra x) (xs : List α) :
    (mark.intercalate (xs.map write)).length = (mark.intercalate (xs.map bare)).length + (xs.map extra).sum := by
  induction xs with
  | nil => rfl
  | cons x rest ih =>
    cases rest with
    | nil => simp [h]
    | cons y rest =>
      simp only [List.map_cons, String.intercalate_cons_cons, String.length_append, List.sum_cons, h] at ih ⊢
      omega

namespace ValueRange

/-! ### The numbers in a text -/

/-- The length of numbers that are written by `num`. -/
def numbersLength (num : Int → String) (ns : List Int) : Nat :=
  (ns.map fun n => (num n).length).sum

section Lengths

variable (num : Int → String)

/-- The numbers of two lists, one behind the other. -/
theorem numbersLength_append (ms ns : List Int) :
    numbersLength num (ms ++ ns) = numbersLength num ms + numbersLength num ns := by
  simp [numbersLength]

/-- The numbers of intervals, counted interval by interval. -/
theorem numbersLength_flatMap (pieces : List Interval) :
    numbersLength num (pieces.flatMap pieceNumbers) =
      (pieces.map fun piece => numbersLength num (pieceNumbers piece)).sum := by
  induction pieces with
  | nil => rfl
  | cons piece rest ih => rw [List.flatMap_cons, numbersLength_append, ih, List.map_cons, List.sum_cons]

/-- An interval is as long as its numbers and the dots between them. -/
theorem length_renderPiece (piece : Interval) :
    (renderPiece num piece).length =
      (renderPiece (fun _ => "") piece).length + numbersLength num (pieceNumbers piece) := by
  -- Whether there are two numbers depends on the interval, not on how they are written.
  rw [renderPiece, renderPiece, pieceNumbers]
  split
  · simp [numbersLength]
  · simp only [String.length_append, String.length_empty, numbersLength, List.map_cons, List.map_nil,
      List.sum_cons, List.sum_nil]
    omega

/-- Excluded values are as long as their numbers and what stands around and between them. -/
theorem length_renderExclusions (exclusions : List Int) :
    (renderExclusions num exclusions).length =
      (renderExclusions (fun _ => "") exclusions).length + numbersLength num exclusions := by
  have hjoined : (",".intercalate (exclusions.map num)).length =
      (",".intercalate (exclusions.map fun _ => "")).length + numbersLength num exclusions :=
    length_intercalate_map "," (fun n => by simp) exclusions
  rw [renderExclusions, renderExclusions]
  cases exclusions with
  | nil => rfl
  | cons n rest =>
    simp only [List.isEmpty_cons, Bool.false_eq_true, if_false, String.length_append, hjoined]
    omega

/-- A text is as long as its numbers and what stands around them. -/
theorem length_renderWith (r : ValueRange) :
    (r.renderWith num).length =
      (r.renderWith fun _ => "").length + numbersLength num r.shownNumbers := by
  have hpieces := length_intercalate_map " ∪ " (length_renderPiece num)
  unfold renderWith shownNumbers
  cases r.shape with
  | top => rfl
  | bounds low high =>
    cases low <;> cases high <;>
      simp only [Option.map_some, Option.map_none, Option.getD_some, Option.getD_none, String.length_append,
        String.length_empty, numbersLength, Option.toList, List.nil_append, List.append_nil, List.map_append,
        List.map_cons, List.map_nil, List.sum_append, List.sum_cons, List.sum_nil] <;>
      omega
  | pieces pieces exclusions =>
    -- A single piece stands bare, more than one (or none) are joined by the union sign.
    rw [numbersLength_append, numbersLength_flatMap]
    match pieces with
    | [piece] =>
      simp only [String.length_append, length_renderPiece num, length_renderExclusions num, List.map_cons,
        List.map_nil, List.sum_cons, List.sum_nil]
      omega
    | [] | _ :: _ :: _ =>
      simp only [String.length_append, hpieces, length_renderExclusions num]
      omega

end Lengths

/-! ### Shortened numbers -/

/-- A number of more than `k` digits has more than `k` characters. -/
theorem lt_length_render {k : Nat} (hk : 0 < k) {n : Int} (h : 10 ^ k ≤ n.natAbs) :
    k < (Numeral.render n).length := by
  have hdigits : ¬ (Nat.repr n.natAbs).length ≤ k := by
    rw [Nat.length_repr_le_iff hk]
    omega
  rw [Numeral.render]
  split
  · rw [String.length_append]
    omega
  · omega

/-- The names are shorter than an abbreviation, and their numbers are longer. -/
theorem length_of_mem_namedNumbers {named : Int × String} (h : named ∈ namedNumbers) :
    named.2.length < 12 ∧ 11 < (Numeral.render named.1).length := by
  have hall : (namedNumbers.all fun named =>
      decide (named.2.length < 12 ∧ 10 ^ 11 ≤ named.1.natAbs)) = true := by decide +kernel
  obtain ⟨hname, hnumber⟩ := of_decide_eq_true (List.all_eq_true.mp hall named h)
  exact ⟨hname, lt_length_render (by decide) hnumber⟩

/-- A number is lengthened exactly if it is cut down although it has less than twelve characters. -/
theorem length_shortNumber_le_iff (digits n : Int) :
    (shortNumber digits n).length ≤ (Numeral.render n).length ↔
      ¬ (digits < (Numeral.render n).length ∧ (Numeral.render n).length < 12) := by
  rw [shortNumber]
  cases hnamed : namedNumbers.find? fun named => named.1 == n with
  | some named =>
    have hlength := length_of_mem_namedNumbers (List.mem_of_find?_eq_some hnamed)
    have hnumber : named.1 = n := by simpa using List.find?_some hnamed
    rw [hnumber] at hlength
    show named.2.length ≤ _ ↔ _
    omega
  | none =>
    dsimp only
    split
    · -- Six characters from the front, two dots and four from the end: twelve, unless there are fewer.
      have hparts : (String.ofList ((Numeral.render n).toList.take 6) ++ ".." ++
          String.ofList ((Numeral.render n).toList.drop ((Numeral.render n).length - 4))).length =
            min 6 (Numeral.render n).length + 2 + min 4 (Numeral.render n).length := by
        have hdots : "..".length = 2 := rfl
        simp only [String.length_append, String.length_ofList, List.length_take, List.length_drop,
          String.length_toList, hdots]
        omega
      rw [hparts]
      omega
    · omega

/-- What stands around the numbers is the same in both texts, so the texts are compared by their numbers. -/
theorem length_short_le_iff (digits : Int) (r : ValueRange) :
    (r.short digits).length ≤ r.exact.length ↔
      numbersLength (shortNumber digits) r.shownNumbers ≤ numbersLength Numeral.render r.shownNumbers := by
  rw [short, exact, length_renderWith (shortNumber digits), length_renderWith Numeral.render]
  omega

/-- If numbers are shown in full up to eleven characters, no text is lengthened. -/
theorem length_short_le {digits : Int} (h : 11 ≤ digits) (r : ValueRange) :
    (r.short digits).length ≤ r.exact.length := by
  rw [length_short_le_iff]
  -- The texts are compared number by number.
  refine List.sum_le_sum fun n _ => ?_
  rw [length_shortNumber_le_iff]
  omega

end ValueRange

/-! ### Configured numbers of characters -/

namespace Config

/-- A number that must be positive is at least one. -/
theorem one_le_of_positive {key : String} {v : Wire.Value} {n : Int} (h : positive key v = .ok n) : 1 ≤ n := by
  unfold positive at h
  split at h
  · split at h
    · cases h
    · cases h
      omega
  · cases h

/-- No setting takes the number of characters below one. -/
theorem one_le_shortDigits_of_set {config config' : Config} {key : String} {v : Wire.Value}
    (h : config.set key v = .ok config') (hone : 1 ≤ config.shortDigits) : 1 ≤ config'.shortDigits := by
  unfold set at h
  split at h
  · obtain ⟨b, -, hset⟩ := Except.bind_eq_ok_iff.mp h
    cases hset
    exact hone
  · obtain ⟨n, -, hset⟩ := Except.bind_eq_ok_iff.mp h
    cases hset
    exact hone
  · -- The one key that sets it is read as a positive number.
    obtain ⟨n, hn, hset⟩ := Except.bind_eq_ok_iff.mp h
    cases hset
    exact one_le_of_positive hn
  · obtain ⟨b, -, hset⟩ := Except.bind_eq_ok_iff.mp h
    cases hset
    exact hone
  · cases h

/-- Whatever a configuration says, a number may have one character. -/
theorem one_le_shortDigits {v : Wire.Value} {config : Config} (h : ofValue v = .ok config) :
    1 ≤ config.shortDigits := by
  -- Setting the fields one by one keeps the bound, since each setting that succeeds does.
  have hfields : ∀ (fields : List (String × Wire.Value)) (start : Config), 1 ≤ start.shortDigits →
      fields.foldlM (fun config field => config.set field.1 field.2) start = .ok config →
        1 ≤ config.shortDigits := by
    intro fields
    induction fields with
    | nil =>
      intro start hone hfold
      cases hfold
      exact hone
    | cons field rest ih =>
      intro start hone hfold
      rw [List.foldlM_cons] at hfold
      obtain ⟨next, hnext, hrest⟩ := Except.bind_eq_ok_iff.mp hfold
      exact ih next (one_le_shortDigits_of_set hnext hone) hrest
  unfold ofValue at h
  split at h
  · exact hfields _ {} (by decide) h
  · cases h

end Config

namespace ValueRange

/-- **Length of the text for display.** Under a configuration, a number is lengthened exactly if it is
    cut down although it has less than twelve characters; the text of a range is lengthened exactly if
    its numbers are, taken together; and there are ranges whose text is lengthened unless numbers are
    shown in full up to eleven characters. -/
theorem length_short_le_exact_iff {v : Wire.Value} {config : Config} (h : Config.ofValue v = .ok config) :
    1 ≤ config.shortDigits ∧
      (∀ n : Int, (shortNumber config.shortDigits n).length ≤ (Numeral.render n).length ↔
        ¬ (config.shortDigits < (Numeral.render n).length ∧ (Numeral.render n).length < 12)) ∧
      (∀ r : ValueRange, (r.short config.shortDigits).length ≤ r.exact.length ↔
        numbersLength (shortNumber config.shortDigits) r.shownNumbers ≤
          numbersLength Numeral.render r.shownNumbers) ∧
      ((∀ r : ValueRange, (r.short config.shortDigits).length ≤ r.exact.length) ↔ 11 ≤ config.shortDigits) := by
  refine ⟨Config.one_le_shortDigits h, length_shortNumber_le_iff _, length_short_le_iff _, ?_, length_short_le⟩
  intro hall
  -- A range whose only number has eleven characters: it is lengthened if it is cut down.
  have hlength : (Numeral.render (10 ^ 10)).length = 11 := by decide +kernel
  have hshown : shownNumbers { low := some (10 ^ 10) } = [10 ^ 10] := by decide +kernel
  have hsum := (length_short_le_iff _ _).mp (hall { low := some (10 ^ 10) })
  rw [hshown] at hsum
  have hnot := (length_shortNumber_le_iff config.shortDigits (10 ^ 10)).mp (by simpa [numbersLength] using hsum)
  rw [hlength] at hnot
  omega

/-- Under eight digits a number of nine is cut down to twelve characters. -/
theorem length_short_le_exact_iff_of_eightDigits :
    Config.ofValue (.obj [("short-number-digits", .int 8)]) = .ok { shortDigits := 8 } ∧
      shortNumber 8 123456789 = "123456..6789" ∧
      ¬ (shortNumber 8 123456789).length ≤ (Numeral.render 123456789).length ∧
      ¬ ∀ r : ValueRange, (r.short 8).length ≤ r.exact.length := by
  have hconfig : Config.ofValue (.obj [("short-number-digits", .int 8)]) = .ok { shortDigits := 8 } := rfl
  obtain ⟨-, hnumber, -, hall⟩ := length_short_le_exact_iff hconfig
  refine ⟨hconfig, by decide +kernel, ?_, ?_⟩
  · rw [hnumber, not_not]
    decide +kernel
  · rw [hall]
    decide

/-- The text for display can be longer than the canonical one: `[0..12345..2345]` in the place of `[0..12345]`. -/
theorem not_always_length_short_le_exact :
    ¬ ∀ (v : Wire.Value) (config : Config), Config.ofValue v = .ok config →
      ∀ r : ValueRange, (r.short config.shortDigits).length ≤ r.exact.length := by
  intro h
  have hconfig : Config.ofValue (.obj [("short_number_digits", .int 4)]) = .ok { shortDigits := 4 } := rfl
  exact absurd (h _ _ hconfig { intervals := [⟨0, 12345⟩] }) (by decide +kernel)

end ValueRange

end RangeAudit
