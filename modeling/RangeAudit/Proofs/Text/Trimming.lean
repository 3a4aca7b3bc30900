import Mathlib.Data.List.TakeWhile
import RangeAudit.Text.Blank

namespace RangeAudit.Text

/-!
# What trimming leaves

Trimming takes the characters of a class away from both ends.  What it leaves is the core of the text: the part
that stands between two runs of such characters, and begins and ends with none of them.

* `IsCore` — the core of a text;
* `isCore_trimWhere` — trimming leaves a core;
* `trimWhere_eq_iff`, `trim_eq_iff` — and a text has only one.
-/

/-- A part of a text stands between two runs of characters of a class, and neither begins nor ends with one. -/
structure IsCore (p : Char → Bool) (core cs : List Char) : Prop where
  stands : ∃ front back, cs = front ++ core ++ back ∧
    (∀ c ∈ front, p c = true) ∧ ∀ c ∈ back, p c = true
  begins : ∀ c ∈ core.head?, p c = false
  ends : ∀ c ∈ core.getLast?, p c = false

section Core

variable {p : Char → Bool}

theorem head?_dropWhile_eq_false (cs : List Char) : ∀ c ∈ (cs.dropWhile p).head?, p c = false := by
  intro c hc
  have hstop := List.head?_dropWhile_not p cs
  rw [Option.mem_def.mp hc] at hstop
  exact hstop

/-- Nothing is dropped from the front of a text that begins outside the class. -/
theorem dropWhile_eq_of_head? {cs : List Char} (h : ∀ c ∈ cs.head?, p c = false) : cs.dropWhile p = cs := by
  cases cs with
  | nil => rfl
  | cons c rest => exact List.dropWhile_cons_of_neg (by simp [h c rfl])

/-- What is left by trimming is the core. -/
theorem isCore_trimWhere (cs : List Char) : IsCore p (trimWhere p cs) cs := by
  have hfront : cs = cs.takeWhile p ++ cs.dropWhile p := List.takeWhile_append_dropWhile.symm
  have hback : cs.dropWhile p = trimWhere p cs ++ ((cs.dropWhile p).reverse.takeWhile p).reverse := by
    have hsplit : (cs.dropWhile p).reverse = (cs.dropWhile p).reverse.takeWhile p ++
        (cs.dropWhile p).reverse.dropWhile p := List.takeWhile_append_dropWhile.symm
    rw [trimWhere, ← List.reverse_append, ← hsplit, List.reverse_reverse]
  refine ⟨⟨cs.takeWhile p, ((cs.dropWhile p).reverse.takeWhile p).reverse, ?_, ?_, ?_⟩, ?_, ?_⟩
  · rw [List.append_assoc, ← hback, ← hfront]
  · exact fun c hc => List.mem_takeWhile_imp hc
  · exact fun c hc => List.mem_takeWhile_imp (List.mem_reverse.mp hc)
  · intro c hc
    apply head?_dropWhile_eq_false cs c
    rw [hback, List.head?_append, Option.mem_def.mp hc]
    rfl
  · intro c hc
    rw [trimWhere, List.getLast?_reverse] at hc
    exact head?_dropWhile_eq_false _ c hc

/-- There is no other core. -/
theorem IsCore.trimWhere_eq {core cs : List Char} (h : IsCore p core cs) : trimWhere p cs = core := by
  obtain ⟨⟨front, back, rfl, hfront, hback⟩, hbegins, hends⟩ := h
  -- An all-blank text has an empty core, and then the front trim takes the back as well.
  have hcore : (core ++ back).dropWhile p = core ++ (if core = [] then [] else back) := by
    cases core with
    | nil => simpa using hback
    | cons c rest => exact dropWhile_eq_of_head? hbegins
  have hlast : ((if core = [] then [] else back).reverse ++ core.reverse).dropWhile p = core.reverse := by
    have hstops : core.reverse.dropWhile p = core.reverse :=
      dropWhile_eq_of_head? (by rwa [List.head?_reverse])
    rw [List.dropWhile_append_of_pos, hstops]
    intro c hc
    split at hc
    · cases hc
    · exact hback c (List.mem_reverse.mp hc)
  rw [trimWhere, List.append_assoc, List.dropWhile_append_of_pos hfront, hcore, List.reverse_append, hlast,
    List.reverse_reverse]

/-- Trimming leaves the core of a text. -/
theorem trimWhere_eq_iff {core cs : List Char} : trimWhere p cs = core ↔ IsCore p core cs := by
  constructor
  · rintro rfl
    exact isCore_trimWhere cs
  · exact IsCore.trimWhere_eq

end Core

/-- **Trimming.** What is left of a line is the part between its blanks, whatever blanks there are. -/
theorem trim_eq_iff {line text : String} : trim line = text ↔ IsCore isBlank text.toList line.toList := by
  rw [← trimWhere_eq_iff, trim, ← String.toList_inj, String.toList_ofList]
  rfl

end RangeAudit.Text
