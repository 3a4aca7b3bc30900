import Mathlib.Algebra.GroupWithZero.Nat
import Mathlib.Data.List.Basic
import RangeAudit.Text.Line

namespace RangeAudit.Text

/-!
# Lines of a text

A text is its lines, joined by line feeds: no line holds a line feed, and there is one line more than there are
line feeds.  The numbers of the lines ascend from one.

* `not_mem_of_mem_divide`, `length_divide` — a list is divided at every mark;
* `intercalate_linesOf`, `not_mem_of_mem_linesOf`, `length_linesOf` — so a text is divided into its lines;
* `linesOf_intercalate` — and lines that are joined are divided again;
* `lineFeeds`, `lineFeeds_intercalate` — the line feeds of joined texts;
* `map_fst_numberedLines`, `map_snd_numberedLines`, `pairwise_numberedLines` — the lines with their numbers.
-/

/-! ### Divided lists -/

/-- Joining pieces with a mark is putting the mark between them. -/
theorem joinWith_eq_intercalate (mark : Char) (pieces : List (List Char)) :
    joinWith mark pieces = [mark].intercalate pieces := by
  induction pieces with
  | nil => rfl
  | cons piece rest ih =>
    cases rest with
    | nil => rw [joinWith, List.intercalate_singleton]
    | cons next rest =>
      show piece ++ mark :: joinWith mark (next :: rest) = _
      rw [ih, List.intercalate_cons_cons, List.append_assoc, List.singleton_append]

/-- The pieces do not contain what they are divided at. -/
theorem not_mem_of_mem_divide {mark : Char} {cs piece : List Char} (h : piece ∈ divide mark cs) : mark ∉ piece := by
  induction cs generalizing piece with
  | nil =>
    rw [divide, List.mem_singleton] at h
    rw [h]
    exact List.not_mem_nil
  | cons c rest ih =>
    rw [divide] at h
    split at h
    · rcases List.mem_cons.mp h with rfl | h
      · exact List.not_mem_nil
      · exact ih h
    · rename_i hc
      -- No mark: the character joins the first piece of the rest.
      cases hrest : divide mark rest with
      | nil => exact absurd hrest (divide_ne_nil mark rest)
      | cons first others =>
        rw [hrest] at h ih
        rcases List.mem_cons.mp h with rfl | h
        · have hfirst := ih List.mem_cons_self
          simp [Ne.symm hc, hfirst]
        · exact ih (List.mem_cons_of_mem _ h)

/-- There is one piece more than there are marks. -/
theorem length_divide (mark : Char) (cs : List Char) : (divide mark cs).length = cs.count mark + 1 := by
  induction cs with
  | nil => rfl
  | cons c rest ih =>
    rw [divide]
    split
    · rename_i hc
      rw [List.length_cons, ih, hc, List.count_cons_self]
    · rename_i hc
      rw [List.count_cons_of_ne hc, ← ih]
      cases hrest : divide mark rest with
      | nil => exact absurd hrest (divide_ne_nil mark rest)
      | cons first others => rfl

/-- Without a mark there is one piece. -/
theorem divide_of_not_mem {mark : Char} {cs : List Char} (h : mark ∉ cs) : divide mark cs = [cs] := by
  induction cs with
  | nil => rfl
  | cons c rest ih =>
    simp only [List.mem_cons, not_or] at h
    rw [divide, if_neg (Ne.symm h.1), ih h.2]

/-- The first piece ends at the first mark. -/
theorem divide_append_cons {mark : Char} {piece : List Char} (h : mark ∉ piece) (rest : List Char) :
    divide mark (piece ++ mark :: rest) = piece :: divide mark rest := by
  induction piece with
  | nil => rw [List.nil_append, divide, if_pos rfl]
  | cons c piece ih =>
    simp only [List.mem_cons, not_or] at h
    rw [List.cons_append, divide, if_neg (Ne.symm h.1), ih h.2]

/-- What is joined from pieces without the mark is divided into them again. -/
theorem divide_joinWith {mark : Char} {pieces : List (List Char)} (hsome : pieces ≠ [])
    (h : ∀ piece ∈ pieces, mark ∉ piece) : divide mark (joinWith mark pieces) = pieces := by
  induction pieces with
  | nil => exact absurd rfl hsome
  | cons piece rest ih =>
    have hpiece : mark ∉ piece := h piece List.mem_cons_self
    cases rest with
    | nil => exact divide_of_not_mem hpiece
    | cons next rest =>
      have hrest := ih (List.cons_ne_nil next rest) fun other hother =>
        h other (List.mem_cons_of_mem piece hother)
      rw [joinWith, divide_append_cons hpiece, hrest]
      exact List.cons_ne_nil next rest

/-! ### Lines -/

/-- The lines of a text, joined by line feeds, are the text. -/
theorem intercalate_linesOf (text : String) : "\n".intercalate (linesOf text) = text := by
  apply String.toList_injective
  have hpieces : (linesOf text).map String.toList = divide '\n' text.toList := by
    rw [linesOf, List.map_map]
    exact List.map_id'' (fun piece => String.toList_ofList) _
  rw [String.toList_intercalate, hpieces]
  exact (joinWith_eq_intercalate '\n' _).symm.trans (joinWith_divide '\n' text.toList)

/-- A line has no line feed in it. -/
theorem not_mem_of_mem_linesOf {text line : String} (h : line ∈ linesOf text) : '\n' ∉ line.toList := by
  obtain ⟨piece, hpiece, rfl⟩ := List.mem_map.mp h
  rw [String.toList_ofList]
  exact not_mem_of_mem_divide hpiece

/-- A text has one line more than line feeds. -/
theorem length_linesOf (text : String) : (linesOf text).length = text.toList.count '\n' + 1 := by
  rw [linesOf, List.length_map, length_divide]

/-- Lines that are joined by line feeds are found again. -/
theorem linesOf_intercalate {lines : List String} (hsome : lines ≠ [])
    (h : ∀ line ∈ lines, '\n' ∉ line.toList) : linesOf ("\n".intercalate lines) = lines := by
  have hjoin : ("\n".intercalate lines).toList = joinWith '\n' (lines.map String.toList) := by
    rw [String.toList_intercalate, joinWith_eq_intercalate]
    rfl
  have hpieces : ∀ piece ∈ lines.map String.toList, '\n' ∉ piece := by
    intro piece hpiece
    obtain ⟨line, hline, rfl⟩ := List.mem_map.mp hpiece
    exact h line hline
  rw [linesOf, hjoin, divide_joinWith (by simpa using hsome) hpieces, List.map_map]
  exact List.map_id'' (fun line => String.ofList_toList) _

/-! ### Line feeds -/

/-- The number of line feeds in a text. -/
def lineFeeds (text : String) : Nat :=
  text.toList.count '\n'

/-- A text without line feeds. -/
theorem lineFeeds_eq_zero_iff (text : String) : lineFeeds text = 0 ↔ '\n' ∉ text.toList :=
  List.count_eq_zero

/-- Texts without line feeds. -/
theorem sum_lineFeeds_eq_zero_iff (texts : List String) :
    (texts.map lineFeeds).sum = 0 ↔ ∀ text ∈ texts, '\n' ∉ text.toList := by
  simp only [List.sum_eq_zero_iff_forall_eq_nat, List.forall_mem_map, lineFeeds_eq_zero_iff]

/-- The line feeds of two texts, one behind the other. -/
theorem lineFeeds_append (a b : String) : lineFeeds (a ++ b) = lineFeeds a + lineFeeds b := by
  rw [lineFeeds, String.toList_append, List.count_append]
  rfl

/-- The line feeds of texts that are joined by a mark, which may have some itself. -/
theorem lineFeeds_intercalate (mark : String) (texts : List String) :
    lineFeeds (mark.intercalate texts) =
      (texts.map lineFeeds).sum + (texts.length - 1) * lineFeeds mark := by
  induction texts with
  | nil => simp [lineFeeds]
  | cons text rest ih =>
    cases rest with
    | nil => simp
    | cons next rest =>
      have hcons : lineFeeds (mark.intercalate (text :: next :: rest)) =
          lineFeeds text + lineFeeds mark + lineFeeds (mark.intercalate (next :: rest)) := by
        rw [String.intercalate_cons_cons, lineFeeds_append, lineFeeds_append]
      have hsum : ((text :: next :: rest).map lineFeeds).sum =
          lineFeeds text + ((next :: rest).map lineFeeds).sum := List.sum_cons
      have hlength : (text :: next :: rest).length - 1 = ((next :: rest).length - 1) + 1 := rfl
      rw [hcons, ih, hsum, hlength, Nat.succ_mul]
      omega

/-! ### Numbered lines -/

/-- Lines are numbered from one. -/
theorem map_fst_numberedLines (text : String) :
    (numberedLines text).map Prod.fst = List.range' 1 (linesOf text).length := by
  have hnumber : (Prod.fst ∘ fun line : String × Nat => (line.2 + 1, line.1)) = (1 + ·) ∘ Prod.snd := by
    funext line
    exact Nat.add_comm line.2 1
  rw [numberedLines, List.map_map, hnumber, ← List.map_map, List.zipIdx_map_snd, List.map_add_range']

/-- All lines are numbered, in order. -/
theorem map_snd_numberedLines (text : String) : (numberedLines text).map Prod.snd = linesOf text := by
  rw [numberedLines, List.map_map]
  exact List.zipIdx_map_fst 0 (linesOf text)

/-- The numbers of the lines ascend. -/
theorem pairwise_numberedLines (text : String) :
    (numberedLines text).Pairwise fun a b => a.1 < b.1 := by
  have hsorted : ((numberedLines text).map Prod.fst).Pairwise (· < ·) := by
    rw [map_fst_numberedLines]
    exact List.pairwise_lt_range' 1
  exact List.pairwise_map.mp hsorted

end RangeAudit.Text
