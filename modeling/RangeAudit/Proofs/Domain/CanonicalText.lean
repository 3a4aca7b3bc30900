import RangeAudit.Domain.Change
import RangeAudit.Proofs.Numeral.Characters

namespace RangeAudit

/-!
# What the canonical text says of a range

The canonical text of a range shows the part of it that counts, and all of that, except that an absent lower
bound is shown as zero.  To read it back, it is cut into numerals: a numeral ends where the first character
comes that no numeral has, an interval where the first character comes that no interval has, and the
elements of a list end where the separator does not follow.

* `Text.CutsAt` — a way of writing that can be told apart from what follows;
* `Text.CutsAt.flatMap` — the same for lists with a separator;
* `ValueRange.Shape.closed` — a lower bound that is absent is zero;
* `ValueRange.exact_eq_iff` — two ranges have the same text if and only if they agree in what counts.
-/

/-! ### Texts that end where something else starts -/

namespace Text

/-- The text starts with no character of a class. -/
def StartsOutside (p : Char → Bool) (cs : List Char) : Prop :=
  ∀ c ∈ cs.head?, p c = false

theorem startsOutside_nil (p : Char → Bool) : StartsOutside p [] := by
  rintro c ⟨⟩

theorem startsOutside_cons {p : Char → Bool} {c : Char} (h : p c = false) (cs : List Char) :
    StartsOutside p (c :: cs) := by
  rintro d ⟨⟩
  exact h

/-- After an element of a list comes the separator or the end. -/
theorem StartsOutside.flatMap_append {p : Char → Bool} {write : α → List Char} {sep u : List Char}
    (hu : StartsOutside p u) (hsep : StartsOutside p sep) (hne : sep ≠ []) (xs : List α) :
    StartsOutside p ((xs.flatMap fun x => sep ++ write x) ++ u) := by
  cases xs with
  | nil => exact hu
  | cons x xs =>
    obtain ⟨d, rest, rfl⟩ := List.exists_cons_of_ne_nil hne
    exact hsep

/-- What is written can be told from what follows, if this starts with no character of a class. -/
def CutsAt (p : Char → Bool) (write : α → List Char) : Prop :=
  ∀ ⦃x y : α⦄ ⦃s t : List Char⦄, StartsOutside p s → StartsOutside p t → write x ++ s = write y ++ t →
    x = y ∧ s = t

/-- A way of writing with characters of the class only. -/
theorem cutsAt_of_forall {p : Char → Bool} {write : α → List Char} (hinj : Function.Injective write)
    (h : ∀ x, ∀ c ∈ write x, p c = true) : CutsAt p write := by
  intro x y s t hs ht heq
  -- Both texts are gone through at once: where one of them ends, what follows starts outside the class.
  have hcut : ∀ xs ys : List Char, (∀ c ∈ xs, p c = true) → (∀ c ∈ ys, p c = true) →
      xs ++ s = ys ++ t → xs = ys ∧ s = t := by
    intro xs
    induction xs with
    | nil =>
      rintro (_ | ⟨d, ys⟩) - hys heq
      · exact ⟨rfl, heq⟩
      · -- The second text goes on with a character of the class, where the first is at its end.
        have hd : p d = false := hs d (by rw [List.nil_append] at heq; rw [heq]; rfl)
        rw [hys d List.mem_cons_self] at hd
        cases hd
    | cons c xs ih =>
      rintro (_ | ⟨d, ys⟩) hxs hys heq
      · have hc : p c = false := ht c (by rw [List.nil_append] at heq; rw [← heq]; rfl)
        rw [hxs c List.mem_cons_self] at hc
        cases hc
      · obtain ⟨rfl, hrest⟩ := List.cons.inj heq
        obtain ⟨rfl, hst⟩ := ih ys (fun a ha => hxs a (List.mem_cons_of_mem _ ha))
          (fun a ha => hys a (List.mem_cons_of_mem _ ha)) hrest
        exact ⟨rfl, hst⟩
  obtain ⟨hxy, hst⟩ := hcut _ _ (h x) (h y) heq
  exact ⟨hinj hxy, hst⟩

/-- A list whose elements have a separator in front, up to something that does not start with it. -/
theorem CutsAt.flatMap {p : Char → Bool} {write : α → List Char} (hwrite : CutsAt p write)
    {sep : List Char} (hsep : StartsOutside p sep) (hne : sep ≠ []) {xs ys : List α} {s t : List Char}
    (hs : StartsOutside p s) (ht : StartsOutside p t) (hs' : ¬ sep <+: s) (ht' : ¬ sep <+: t)
    (h : (xs.flatMap fun x => sep ++ write x) ++ s = (ys.flatMap fun y => sep ++ write y) ++ t) :
    xs = ys ∧ s = t := by
  induction xs generalizing ys with
  | nil =>
    cases ys with
    | nil => exact ⟨rfl, h⟩
    | cons y ys =>
      -- The list that is empty leaves a rest that would begin with the separator.
      have hprefix : sep <+: s := ⟨write y ++ (ys.flatMap fun y => sep ++ write y) ++ t, by simpa using h.symm⟩
      exact absurd hprefix hs'
  | cons x xs ih =>
    cases ys with
    | nil =>
      have hprefix : sep <+: t := ⟨write x ++ (xs.flatMap fun x => sep ++ write x) ++ s, by simpa using h⟩
      exact absurd hprefix ht'
    | cons y ys =>
      -- Two heads: the texts after the common separator cut at the same place.
      simp only [List.flatMap_cons, List.append_assoc, List.append_cancel_left_eq] at h
      obtain ⟨rfl, hrest⟩ := hwrite (hs.flatMap_append hsep hne xs) (ht.flatMap_append hsep hne ys) h
      obtain ⟨rfl, hst⟩ := ih hrest
      exact ⟨rfl, hst⟩

/-- What a list with a separator between its elements consists of. -/
theorem toList_intercalate_map (sep : String) (write : α → String) (x : α) (xs : List α) :
    (sep.intercalate ((x :: xs).map write)).toList =
      (write x).toList ++ xs.flatMap fun y => sep.toList ++ (write y).toList := by
  induction xs generalizing x with
  | nil => simp
  | cons y ys ih =>
    rw [List.map_cons, List.map_cons, String.intercalate_cons_cons, ← List.map_cons, String.toList_append,
      ih, String.toList_append, List.flatMap_cons, List.append_assoc, List.append_assoc]

end Text

namespace ValueRange

/-! ### The parts of a range -/

/-- The characters of a number. -/
def numeralChars (n : Int) : List Char :=
  (Numeral.render n).toList

/-- The characters of an interval. -/
def pieceChars (piece : Interval) : List Char :=
  (renderPiece Numeral.render piece).toList

/-- The characters of the excluded values. -/
def exclusionChars (exclusions : List Int) : List Char :=
  (renderExclusions Numeral.render exclusions).toList

/-- The characters of an upper bound. -/
def highChars (high : Option Int) : List Char :=
  ((high.map Numeral.render).getD "MAX").toList

/-- The characters that intervals are made of. -/
def isPieceMark (c : Char) : Bool :=
  Numeral.isMark c || c == '.'

/-- A number is written with at least one character. -/
theorem numeralChars_ne_nil (n : Int) : numeralChars n ≠ [] :=
  Numeral.render_toList_ne_nil n

/-- Numbers are written with digits and a sign. -/
theorem isMark_of_mem_numeralChars {n : Int} {c : Char} (h : c ∈ numeralChars n) : Numeral.isMark c = true :=
  Numeral.isMark_of_mem_render h

/-- A number ends where a character comes that is neither a digit nor a sign. -/
theorem cutsAt_numeralChars : Text.CutsAt Numeral.isMark numeralChars :=
  Text.cutsAt_of_forall (fun _ _ h => Numeral.render_injective (String.toList_inj.mp h))
    fun _ _ => isMark_of_mem_numeralChars

/-- An interval of one number is written as the number, any other with two dots between its ends. -/
theorem pieceChars_eq (piece : Interval) :
    pieceChars piece = numeralChars piece.low ++
      if piece.low = piece.high then [] else '.' :: '.' :: numeralChars piece.high := by
  rw [pieceChars, renderPiece]
  split <;> simp [numeralChars]

/-- An interval ends where a character comes that no interval has. -/
theorem cutsAt_pieceChars : Text.CutsAt isPieceMark pieceChars := by
  rintro ⟨low, high⟩ ⟨low', high'⟩ s t hs ht heq
  have hdot : ∀ {u : List Char}, Text.StartsOutside isPieceMark u → u.head? ≠ some '.' := by
    intro u hu hhead
    exact absurd (hu '.' hhead) (by decide)
  have hmark : ∀ {u : List Char}, Text.StartsOutside isPieceMark u → Text.StartsOutside Numeral.isMark u := by
    intro u hu c hc
    exact (Bool.or_eq_false_iff.mp (hu c hc)).1
  have hdots : ∀ u : List Char, Text.StartsOutside Numeral.isMark ('.' :: '.' :: u) :=
    fun u => Text.startsOutside_cons (by decide) _
  simp only [pieceChars_eq, List.append_assoc] at heq
  -- The lower ends come first; whether an upper end follows is seen from the dots.
  by_cases hsingle : low = high <;> by_cases hsingle' : low' = high'
  · subst hsingle hsingle'
    simp only [if_true, List.nil_append] at heq
    obtain ⟨rfl, hst⟩ := cutsAt_numeralChars (hmark hs) (hmark ht) heq
    exact ⟨rfl, hst⟩
  · simp only [hsingle, hsingle', if_true, if_false, List.nil_append, List.cons_append] at heq
    obtain ⟨-, hst⟩ := cutsAt_numeralChars (hmark hs) (hdots _) heq
    exact absurd (congrArg List.head? hst) (hdot hs)
  · simp only [hsingle, hsingle', if_true, if_false, List.nil_append, List.cons_append] at heq
    obtain ⟨-, hst⟩ := cutsAt_numeralChars (hdots _) (hmark ht) heq
    exact absurd (congrArg List.head? hst).symm (hdot ht)
  · simp only [hsingle, hsingle', if_false, List.cons_append] at heq
    obtain ⟨rfl, hrest⟩ := cutsAt_numeralChars (hdots _) (hdots _) heq
    obtain ⟨rfl, hst⟩ := cutsAt_numeralChars (hmark hs) (hmark ht)
      (List.cons.inj (List.cons.inj hrest).2).2
    exact ⟨rfl, hst⟩

/-- Excluded values are written between braces, with commas between them. -/
theorem exclusionChars_cons (n : Int) (ns : List Int) :
    exclusionChars (n :: ns) = ' ' :: '\\' :: ' ' :: '\x7b' ::
      (numeralChars n ++ (ns.flatMap fun k => [','] ++ numeralChars k) ++ ['\x7d']) := by
  rw [exclusionChars, renderExclusions, if_neg (by simp), String.toList_append, String.toList_append,
    Text.toList_intercalate_map]
  simp [numeralChars]

/-- What follows an interval is nothing or a blank. -/
theorem startsOutside_exclusionChars (exclusions : List Int) :
    Text.StartsOutside isPieceMark (exclusionChars exclusions) := by
  cases exclusions with
  | nil => exact Text.startsOutside_nil _
  | cons n ns =>
    rw [exclusionChars_cons]
    exact Text.startsOutside_cons (by decide) _

/-- The excluded values do not look like a further interval. -/
theorem not_union_prefix_exclusionChars (exclusions : List Int) :
    ¬ [' ', '∪', ' '] <+: exclusionChars exclusions := by
  cases exclusions with
  | nil => simp [exclusionChars, renderExclusions]
  | cons n ns => simp [exclusionChars_cons]

/-- The excluded values can be read back. -/
theorem exclusionChars_injective : Function.Injective exclusionChars := by
  intro ms ns h
  cases ms with
  | nil =>
    cases ns with
    | nil => rfl
    | cons n ns => simp [exclusionChars, renderExclusions] at h
  | cons m ms =>
    cases ns with
    | nil => simp [exclusionChars, renderExclusions] at h
    | cons n ns =>
      simp only [exclusionChars_cons, List.cons.injEq, true_and, List.append_assoc] at h
      have hend : Text.StartsOutside Numeral.isMark ['\x7d'] := Text.startsOutside_cons (by decide) _
      have hsep : Text.StartsOutside Numeral.isMark [','] := Text.startsOutside_cons (by decide) _
      have hnotComma : ¬ [','] <+: ['\x7d'] := by decide
      -- The first value ends at a comma or at the brace, and the rest is a list with commas.
      obtain ⟨rfl, hrest⟩ := cutsAt_numeralChars (hend.flatMap_append hsep (by decide) ms)
        (hend.flatMap_append hsep (by decide) ns) h
      obtain ⟨rfl, -⟩ := cutsAt_numeralChars.flatMap hsep (by decide) hend hend hnotComma hnotComma hrest
      rfl

/-! ### Texts by the part that counts -/

/-- Intervals only count where there are some. -/
theorem ne_nil_of_shape_eq_pieces {r : ValueRange} {pieces : List Interval} {exclusions : List Int}
    (h : r.shape = .pieces pieces exclusions) : pieces ≠ [] := by
  unfold shape at h
  split at h
  · split at h <;> cases h
  · rename_i hne
    cases h
    simpa using hne

/-- A single interval stands in brackets, with the excluded values behind them. -/
theorem exact_of_piece {r : ValueRange} {piece : Interval} {exclusions : List Int}
    (h : r.shape = .pieces [piece] exclusions) :
    r.exact.toList = '[' :: (pieceChars piece ++ ']' :: exclusionChars exclusions) := by
  rw [exact, renderWith, h]
  simp [pieceChars, exclusionChars]

/-- Several intervals stand without brackets, with the sign of the union between them. -/
theorem exact_of_pieces {r : ValueRange} {first second : Interval} {rest : List Interval}
    {exclusions : List Int} (h : r.shape = .pieces (first :: second :: rest) exclusions) :
    r.exact.toList = pieceChars first ++
      (((second :: rest).flatMap fun piece => [' ', '∪', ' '] ++ pieceChars piece) ++
        exclusionChars exclusions) := by
  rw [exact, renderWith, h]
  dsimp only
  rw [String.toList_append, Text.toList_intercalate_map, List.append_assoc]
  rfl

/-- Bounds stand in brackets, with a comma between them. -/
theorem exact_of_bounds {r : ValueRange} {low high : Option Int} (h : r.shape = .bounds low high) :
    r.exact.toList = '[' :: (numeralChars (low.getD 0) ++ (',' :: ' ' :: (highChars high ++ [']']))) := by
  have hlow : ((low.map Numeral.render).getD "0").toList = numeralChars (low.getD 0) := by
    cases low <;> rfl
  rw [exact, renderWith, h]
  simp [hlow, highChars]

/-- Where nothing is known there is a word. -/
theorem exact_of_top {r : ValueRange} (h : r.shape = .top) : r.exact.toList = ['T', 'O', 'P'] := by
  rw [exact, renderWith, h]
  rfl

/-! ### Reading the part that counts -/

/-- The forms that a canonical text may have. -/
inductive TextForm where
  | piece
  | pieces
  | bounds
  | top

/-- The form in which a part of a range is written. -/
def Shape.form : Shape → TextForm
  | .pieces [_] _ => .piece
  | .pieces _ _ => .pieces
  | .bounds _ _ => .bounds
  | .top => .top

/-- The form of a text: bounds have a comma after their first number. -/
def formOf : List Char → TextForm
  | 'T' :: _ => .top
  | '[' :: rest => if (rest.dropWhile isPieceMark).head? = some ',' then .bounds else .piece
  | _ => .pieces

/-- Intervals are written with digits, signs and dots. -/
theorem isPieceMark_of_mem_pieceChars {piece : Interval} {c : Char} (h : c ∈ pieceChars piece) :
    isPieceMark c = true := by
  have hnumeral : ∀ n, c ∈ numeralChars n → isPieceMark c = true := fun n hn => by
    rw [isPieceMark, isMark_of_mem_numeralChars hn, Bool.true_or]
  rw [pieceChars_eq, List.mem_append] at h
  rcases h with h | h
  · exact hnumeral _ h
  · split at h
    · cases h
    · simp only [List.mem_cons] at h
      rcases h with rfl | rfl | h
      · rfl
      · rfl
      · exact hnumeral _ h

/-- The form can be seen from the text. -/
theorem formOf_exact (r : ValueRange) : formOf r.exact.toList = r.shape.form := by
  cases hshape : r.shape with
  | top => rw [exact_of_top hshape]; rfl
  | bounds low high =>
    -- The first number is passed over, and what comes then is the comma.
    rw [exact_of_bounds hshape, formOf, List.dropWhile_append_of_pos]
    · rw [List.dropWhile_cons_of_neg (by decide)]
      rfl
    · intro c hc
      rw [isPieceMark, isMark_of_mem_numeralChars hc, Bool.true_or]
  | pieces pieces exclusions =>
    obtain ⟨first, rest, rfl⟩ := List.exists_cons_of_ne_nil (ne_nil_of_shape_eq_pieces hshape)
    cases rest with
    | nil =>
      -- The interval is passed over, and what comes then is the bracket.
      rw [exact_of_piece hshape, formOf, List.dropWhile_append_of_pos fun c => isPieceMark_of_mem_pieceChars]
      rw [List.dropWhile_cons_of_neg (by decide)]
      rfl
    | cons second rest =>
      -- The text starts with a character of a number.
      obtain ⟨c, chars, hchars⟩ := List.exists_cons_of_ne_nil (numeralChars_ne_nil first.low)
      have hc : Numeral.isMark c = true := isMark_of_mem_numeralChars (hchars ▸ List.mem_cons_self)
      rw [exact_of_pieces hshape, pieceChars_eq, hchars]
      simp only [List.cons_append]
      unfold formOf
      split
      · rename_i heq
        obtain ⟨rfl, -⟩ := List.cons.inj heq
        exact absurd hc (by decide)
      · rename_i heq
        obtain ⟨rfl, -⟩ := List.cons.inj heq
        exact absurd hc (by decide)
      · rfl

/-- An upper bound can be read back, also an absent one, which is no number. -/
theorem highChars_injective : Function.Injective highChars := by
  have hmax : ∀ n : Int, highChars none ≠ numeralChars n := by
    intro n heq
    have hmark : Numeral.isMark 'M' = true := isMark_of_mem_numeralChars (n := n) (heq ▸ by decide)
    exact absurd hmark (by decide)
  intro high high' h
  cases high with
  | none =>
    cases high' with
    | none => rfl
    | some n => exact absurd h (hmax n)
  | some m =>
    cases high' with
    | none => exact absurd h.symm (hmax m)
    | some n => exact congrArg some (Numeral.render_injective (String.toList_inj.mp h))

namespace Shape

/-- What a text shows of the part that counts: a lower bound that is absent is shown as zero. -/
def closed : Shape → Shape
  | .bounds low high => .bounds (some (low.getD 0)) high
  | shape => shape

end Shape

/-- The form shows which part counts. -/
theorem shape_of_form (r : ValueRange) :
    match r.shape.form with
    | .piece => ∃ piece exclusions, r.shape = .pieces [piece] exclusions
    | .pieces => ∃ first second rest exclusions, r.shape = .pieces (first :: second :: rest) exclusions
    | .bounds => ∃ low high, r.shape = .bounds low high
    | .top => r.shape = .top := by
  cases hshape : r.shape with
  | top => rfl
  | bounds low high => exact ⟨low, high, rfl⟩
  | pieces pieces exclusions =>
    obtain ⟨first, rest, rfl⟩ := List.exists_cons_of_ne_nil (ne_nil_of_shape_eq_pieces hshape)
    cases rest with
    | nil => exact ⟨first, exclusions, rfl⟩
    | cons second rest => exact ⟨first, second, rest, exclusions, rfl⟩

/-- **Reading back.** Ranges with the same text agree in what counts, where an absent lower bound is zero. -/
theorem closed_eq_of_exact_eq {r s : ValueRange} (h : r.exact = s.exact) :
    r.shape.closed = s.shape.closed := by
  -- The texts are of the same form, so both ranges are cut in the same way.
  have hform : s.shape.form = r.shape.form := by rw [← formOf_exact, ← formOf_exact, h]
  have hchars : r.exact.toList = s.exact.toList := congrArg String.toList h
  have hr := r.shape_of_form
  have hs := s.shape_of_form
  rw [hform] at hs
  generalize r.shape.form = form at hr hs
  cases form with
  | piece =>
    obtain ⟨piece, exclusions, hr⟩ := hr
    obtain ⟨piece', exclusions', hs⟩ := hs
    rw [exact_of_piece hr, exact_of_piece hs, List.cons.injEq] at hchars
    have hend : ∀ u, Text.StartsOutside isPieceMark (']' :: u) := Text.startsOutside_cons (by decide)
    obtain ⟨rfl, hrest⟩ := cutsAt_pieceChars (hend _) (hend _) hchars.2
    obtain rfl := exclusionChars_injective (List.cons.inj hrest).2
    rw [hr, hs]
  | pieces =>
    obtain ⟨first, second, rest, exclusions, hr⟩ := hr
    obtain ⟨first', second', rest', exclusions', hs⟩ := hs
    rw [exact_of_pieces hr, exact_of_pieces hs] at hchars
    have hsep : Text.StartsOutside isPieceMark [' ', '∪', ' '] := Text.startsOutside_cons (by decide) _
    have hend := startsOutside_exclusionChars exclusions
    have hend' := startsOutside_exclusionChars exclusions'
    obtain ⟨rfl, hrest⟩ := cutsAt_pieceChars (hend.flatMap_append hsep (by decide) _)
      (hend'.flatMap_append hsep (by decide) _) hchars
    obtain ⟨hpieces, hexclusions⟩ := cutsAt_pieceChars.flatMap hsep (by decide) hend hend'
      (not_union_prefix_exclusionChars _) (not_union_prefix_exclusionChars _) hrest
    obtain rfl := exclusionChars_injective hexclusions
    rw [hr, hs, hpieces]
  | bounds =>
    obtain ⟨low, high, hr⟩ := hr
    obtain ⟨low', high', hs⟩ := hs
    rw [exact_of_bounds hr, exact_of_bounds hs, List.cons.injEq] at hchars
    have hcomma : ∀ u, Text.StartsOutside Numeral.isMark (',' :: u) := Text.startsOutside_cons (by decide)
    obtain ⟨hlow, hrest⟩ := cutsAt_numeralChars (hcomma _) (hcomma _) hchars.2
    simp only [List.cons.injEq, true_and, List.append_cancel_right_eq] at hrest
    rw [hr, hs, Shape.closed, Shape.closed, hlow, highChars_injective hrest]
  | top => rw [hr, hs]

/-- Only what counts is written. -/
theorem exact_eq_of_shape_eq {r s : ValueRange} (h : r.shape = s.shape) : r.exact = s.exact := by
  rw [exact, renderWith, h]
  rfl

/-- **What the text says.** Two ranges have the same canonical text if and only if they agree in the part that
    counts, where a lower bound that is absent is zero. -/
theorem exact_eq_iff (r s : ValueRange) : r.exact = s.exact ↔ r.shape.closed = s.shape.closed := by
  refine ⟨closed_eq_of_exact_eq, fun h => ?_⟩
  cases hr : r.shape with
  | top =>
    cases hs : s.shape with
    | top => exact exact_eq_of_shape_eq (hr.trans hs.symm)
    | bounds | pieces => simp [hr, hs, Shape.closed] at h
  | pieces pieces exclusions =>
    cases hs : s.shape with
    | pieces pieces' exclusions' =>
      rw [hr, hs] at h
      exact exact_eq_of_shape_eq (hr.trans (h.trans hs.symm))
    | bounds | top => simp [hr, hs, Shape.closed] at h
  | bounds low high =>
    cases hs : s.shape with
    -- Two open shapes: the written text only sees the lower side closed.
    | bounds low' high' =>
      simp only [hr, hs, Shape.closed, Shape.bounds.injEq, Option.some.injEq] at h
      rw [← String.toList_inj, exact_of_bounds hr, exact_of_bounds hs, h.1, h.2]
    | pieces | top => simp [hr, hs, Shape.closed] at h

end ValueRange

end RangeAudit
