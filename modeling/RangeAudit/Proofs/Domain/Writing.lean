import RangeAudit.Domain.Change
import RangeAudit.Proofs.Domain.SameDomain

namespace RangeAudit

/-!
# Texts that are not written

The canonical text of a range shows its numbers in full, and a numeral has at most `Numeral.maxDigits`
digits.  So the text is written if every number that it shows is short enough, and nothing else can go wrong;
the verdict on a change is reached if both texts are written.

* `ValueRange.shownNumbers`, `ValueRange.Writable` — the numbers in a text, and that all of them are short enough;
* `ValueRange.writtenIf`, `ValueRange.writtenIf_bind` — what comes of writing some numbers, and of writing others
  after them;
* `ValueRange.write_eq`, `ValueRange.judge_eq` — a range is written, and a change judged, as if numbers had no
  limit, or not at all;
* `ValueRange.write_eq_iff_sameDomain` — the text that is written identifies the domain.
-/

namespace ValueRange

/-! ### The numbers in a text -/

/-- The numbers that the text of an interval shows. -/
def pieceNumbers (piece : Interval) : List Int :=
  if piece.low = piece.high then [piece.low] else [piece.low, piece.high]

/-- The numbers that the text of a range shows. -/
def shownNumbers (r : ValueRange) : List Int :=
  match r.shape with
  | .pieces pieces exclusions => pieces.flatMap pieceNumbers ++ exclusions
  | .bounds low high => low.toList ++ high.toList
  | .top => []

/-- No number that the text shows has more digits than a numeral may have. -/
def Writable (r : ValueRange) : Prop :=
  ∀ n ∈ r.shownNumbers, Numeral.Fits n

instance (r : ValueRange) : Decidable r.Writable :=
  inferInstanceAs (Decidable (∀ n ∈ r.shownNumbers, Numeral.Fits n))

/-! ### Writing one number after the other -/

/-- What comes of writing some numbers: a result, if all of them are short enough. -/
def writtenIf (ns : List Int) (x : α) : Except Fault α :=
  if ∀ n ∈ ns, Numeral.Fits n then .ok x else .error .numeralTooLong

/-- Without a number there is nothing that could fail. -/
@[simp]
theorem writtenIf_nil (x : α) : writtenIf [] x = .ok x :=
  if_pos (List.forall_mem_nil _)

/-- **Step.** To go on to write further numbers is to write all of them. -/
theorem writtenIf_bind {x : α} {y : β} {next : α → Except Fault β} {ns : List Int}
    (h : next x = writtenIf ns y) (ms : List Int) : writtenIf ms x >>= next = writtenIf (ms ++ ns) y := by
  by_cases hms : ∀ n ∈ ms, Numeral.Fits n
  · have hall : (∀ n ∈ ms ++ ns, Numeral.Fits n) ↔ ∀ n ∈ ns, Numeral.Fits n := by
      rw [List.forall_mem_append]
      exact and_iff_right hms
    rw [writtenIf, if_pos hms, writtenIf]
    simp only [hall]
    exact h
  · -- Of what fails there is no next step.
    have hall : ¬ ∀ n ∈ ms ++ ns, Numeral.Fits n := fun hall => hms (List.forall_mem_append.mp hall).1
    rw [writtenIf, if_neg hms, writtenIf, if_neg hall]
    rfl

/-- What is done with a result shows no further number. -/
theorem writtenIf_map (f : α → β) (ns : List Int) (x : α) :
    (writtenIf ns x >>= fun x => pure (f x)) = writtenIf ns (f x) := by
  by_cases h : ∀ n ∈ ns, Numeral.Fits n
  · rw [writtenIf, writtenIf, if_pos h, if_pos h]
    rfl
  · rw [writtenIf, writtenIf, if_neg h, if_neg h]
    rfl

/-- **Run.** If each element of a list is written, so is the list. -/
theorem mapM_eq_writtenIf {write : α → Except Fault β} {numbers : α → List Int} {bare : α → β}
    (h : ∀ x, write x = writtenIf (numbers x) (bare x)) (xs : List α) :
    xs.mapM write = writtenIf (xs.flatMap numbers) (xs.map bare) := by
  induction xs with
  | nil => exact (writtenIf_nil _).symm
  | cons x rest ih =>
    rw [List.mapM_cons, h x, ih, List.flatMap_cons, List.map_cons]
    refine writtenIf_bind ?_ _
    exact writtenIf_map (bare x :: ·) _ _

/-! ### The parts of a text -/

/-- A number is written if it has no more digits than a numeral may have. -/
theorem writeNumber_eq (n : Int) : writeNumber n = writtenIf [n] (Numeral.render n) := by
  rw [writeNumber, writtenIf]
  simp only [List.forall_mem_singleton]

/-- An interval is written if its numbers are. -/
theorem writePiece_eq (piece : Interval) :
    writePiece piece = writtenIf (pieceNumbers piece) (renderPiece Numeral.render piece) := by
  rw [writePiece, pieceNumbers, renderPiece]
  split
  · exact writeNumber_eq _
  · rw [writeNumber_eq, writeNumber_eq]
    refine writtenIf_bind ?_ _
    exact writtenIf_map (Numeral.render piece.low ++ ".." ++ ·) _ _

/-- Excluded values are written if each of them is. -/
theorem writeExclusions_eq (exclusions : List Int) :
    writeExclusions exclusions = writtenIf exclusions (renderExclusions Numeral.render exclusions) := by
  rw [writeExclusions, renderExclusions]
  cases exclusions with
  | nil => exact (writtenIf_nil _).symm
  | cons n rest =>
    have hnumbers := mapM_eq_writtenIf writeNumber_eq (n :: rest)
    rw [List.flatMap_singleton'] at hnumbers
    simp only [List.isEmpty_cons, Bool.false_eq_true, if_false, hnumbers]
    exact writtenIf_map (fun texts => " \\ \x7b" ++ ",".intercalate texts ++ "\x7d") _ _

/-- An absent bound is no number. -/
theorem writeBound_eq (absent : String) (bound : Option Int) :
    writeBound absent bound = writtenIf bound.toList ((bound.map Numeral.render).getD absent) := by
  cases bound with
  | none => exact (writtenIf_nil _).symm
  | some n => exact writeNumber_eq n

/-! ### Texts and verdicts -/

/-- The canonical text is written if and only if its numbers are short enough. -/
theorem write_eq_writtenIf (r : ValueRange) : r.write = writtenIf r.shownNumbers r.exact := by
  unfold write exact renderWith shownNumbers
  cases r.shape with
  | top => exact (writtenIf_nil _).symm
  | bounds low high =>
    simp only [writeBound_eq]
    refine writtenIf_bind ?_ _
    exact writtenIf_map (fun highest => "[" ++ _ ++ ", " ++ highest ++ "]") _ _
  | pieces pieces exclusions =>
    simp only [mapM_eq_writtenIf writePiece_eq, writeExclusions_eq]
    refine writtenIf_bind ?_ _
    -- One piece stands in brackets, and others are joined.
    match pieces with
    | [piece] => exact writtenIf_map ("[" ++ renderPiece Numeral.render piece ++ "]" ++ ·) _ _
    | [] => exact writtenIf_map (" ∪ ".intercalate [] ++ ·) _ _
    | first :: second :: rest =>
      exact writtenIf_map (" ∪ ".intercalate ((first :: second :: rest).map (renderPiece _)) ++ ·) _ _

/-- **Writing a range.** A range that can be written has its canonical text, and no other range has a text. -/
theorem write_eq (r : ValueRange) :
    r.write = if r.Writable then .ok r.exact else .error .numeralTooLong :=
  r.write_eq_writtenIf

/-- A range is written with some text if and only if this is its canonical text and its numbers are short
    enough. -/
theorem write_eq_ok_iff {r : ValueRange} {text : String} :
    r.write = .ok text ↔ r.Writable ∧ r.exact = text := by
  rw [write_eq]
  by_cases h : r.Writable <;> simp [h]

/-- Of ranges that are written, the texts are the same if and only if the canonical texts are. -/
theorem Writable.write_eq_iff {a b : ValueRange} (ha : a.Writable) (hb : b.Writable) :
    a.write = b.write ↔ a.exact = b.exact := by
  rw [write_eq, write_eq, if_pos ha, if_pos hb, Except.ok.injEq]

/-- A change is judged if both ranges are written, and then as if numbers had no limit. -/
theorem judge_eq (a b : ValueRange) (kind : Option StepKind) :
    judge (some a) b kind =
      if a.Writable ∧ b.Writable then .ok (classify (some a) b kind) else .error .numeralTooLong := by
  rw [judge, write_eq, write_eq]
  by_cases hb : b.Writable
  · by_cases ha : a.Writable
    · rw [if_pos ha, if_pos hb, if_pos ⟨ha, hb⟩]
      rfl
    · have hboth : ¬ (a.Writable ∧ b.Writable) := fun h => ha h.1
      rw [if_neg ha, if_pos hb, if_neg hboth]
      rfl
  · -- The new range is written first.
    have hboth : ¬ (a.Writable ∧ b.Writable) := fun h => hb h.2
    rw [if_neg hb, if_neg hboth]
    rfl

/-- There is a judgement only on ranges that can be written, and then it is the verdict. -/
theorem judge_eq_ok_iff {a b : ValueRange} {kind : Option StepKind} {outcome : Option ChangeKind} :
    judge (some a) b kind = .ok outcome ↔
      a.Writable ∧ b.Writable ∧ classify (some a) b kind = outcome := by
  rw [judge_eq, ← and_assoc]
  by_cases h : a.Writable ∧ b.Writable <;> simp [h]

/-- The zero of an absent lower bound is no number of the text, but it would be short enough. -/
theorem forall_mem_bound_iff (bound : Option Int) :
    (∀ n ∈ bound.toList, Numeral.Fits n) ↔ Numeral.Fits (bound.getD 0) := by
  cases bound with
  | none => exact iff_of_true (List.forall_mem_nil _) (by decide)
  | some n => exact List.forall_mem_singleton

/-- Ranges that are the same domain are written alike. -/
theorem SameDomain.writable_iff {a b : ValueRange} (h : SameDomain a b) : a.Writable ↔ b.Writable := by
  unfold Writable shownNumbers
  cases h with
  | pieces ha hb hintervals hexclusions =>
    rw [shape_of_ne_nil ha, shape_of_ne_nil hb, hintervals, hexclusions]
  | bounds ha hb hhigh hlow =>
    rw [ha.shape_eq, hb.shape_eq, hhigh]
    simp only [List.forall_mem_append, forall_mem_bound_iff, hlow]
  | top ha hb => rw [shape_of_isTop ha, shape_of_isTop hb]

/-- **The text identifies the domain.** Two ranges are written with the same canonical text if and only if they
    are the same domain and their numbers are short enough; a change from one to the other goes unreported
    exactly then, whatever the step.  A range that cannot be written has no text, and a change from it or to it
    is not judged, but fails. -/
theorem write_eq_iff_sameDomain (a b : ValueRange) :
    ((∃ text, a.write = .ok text ∧ b.write = .ok text) ↔ a.Writable ∧ SameDomain a b) ∧
      (∀ kind, judge (some a) b kind = .ok none ↔ a.Writable ∧ SameDomain a b) ∧
      (∀ r : ValueRange, r.write = if r.Writable then .ok r.exact else .error .numeralTooLong) ∧
      ∀ kind, judge (some a) b kind =
        if a.Writable ∧ b.Writable then .ok (classify (some a) b kind) else .error .numeralTooLong := by
  refine ⟨?_, fun kind => ?_, write_eq, judge_eq a b⟩
  · -- One of two equal domains can be written if the other can: they have the same numbers.
    simp only [write_eq_ok_iff]
    constructor
    · rintro ⟨text, ⟨ha, rfl⟩, -, hexact⟩
      exact ⟨ha, exact_eq_iff_sameDomain.mp hexact.symm⟩
    · rintro ⟨ha, hsame⟩
      exact ⟨a.exact, ⟨ha, rfl⟩, hsame.writable_iff.mp ha, (exact_eq_iff_sameDomain.mpr hsame).symm⟩
  · rw [judge_eq_ok_iff, classify_eq_none_iff, exact_eq_iff_sameDomain]
    constructor
    · rintro ⟨ha, -, hsame⟩
      exact ⟨ha, hsame⟩
    · rintro ⟨ha, hsame⟩
      exact ⟨ha, hsame.writable_iff.mp ha, hsame⟩

/-- A lower bound of zero may be left out, but only together with an upper bound. -/
example :
    SameDomain { high := some 9 } { low := some 0, high := some 9 } ∧
      ¬ SameDomain {} { low := some 0 } := by decide

end ValueRange

end RangeAudit
