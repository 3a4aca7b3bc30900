import Mathlib.Data.List.Basic
import RangeAudit.Risk.Lines

namespace RangeAudit

/-!
# The first elements of each key

A list is thinned out to one element for each key, the first that has it.

* `FirstIn` — the elements before which none has their key;
* `placeOf` — where a key first occurs;
* `mem_distinctBy_iff` — what is left are the first elements;
* `pairwise_place_distinctBy` — they are left in the order in which their keys first occur, each key once.
-/

variable {α : Type u} {κ : Type v} (key : α → κ)

/-- The element is in the list, and no element before it has its key. -/
def FirstIn (xs : List α) (x : α) : Prop :=
  ∃ before after, xs = before ++ x :: after ∧ ∀ earlier ∈ before, key earlier ≠ key x

/-- An empty list has no first element. -/
theorem not_firstIn_nil (x : α) : ¬ FirstIn key [] x := by
  rintro ⟨before, after, hsplit, -⟩
  simp at hsplit

/-- The first element with a key is the head, or the head has another key and it is the first of the rest. -/
theorem firstIn_cons_iff (head : α) (rest : List α) (x : α) :
    FirstIn key (head :: rest) x ↔ x = head ∨ key head ≠ key x ∧ FirstIn key rest x := by
  constructor
  · rintro ⟨before, after, hsplit, hearlier⟩
    -- An empty front means the head itself; otherwise the head stands in the front, with another key.
    cases before with
    | nil => exact .inl (List.cons.inj hsplit).1.symm
    | cons other before =>
      obtain ⟨rfl, rfl⟩ := List.cons.inj hsplit
      exact .inr ⟨hearlier _ List.mem_cons_self, before, after, rfl,
        fun earlier hmem => hearlier earlier (List.mem_cons_of_mem _ hmem)⟩
  · rintro (rfl | ⟨hne, before, after, rfl, hearlier⟩)
    · exact ⟨[], rest, rfl, by simp⟩
    · refine ⟨head :: before, after, rfl, fun earlier hmem => ?_⟩
      rcases List.mem_cons.mp hmem with rfl | hmem
      · exact hne
      · exact hearlier earlier hmem

variable {key}

/-- Of each key there is one first element. -/
theorem FirstIn.unique {xs : List α} {x y : α} (hx : FirstIn key xs x) (hy : FirstIn key xs y)
    (h : key x = key y) : x = y := by
  induction xs with
  | nil => exact absurd hx (not_firstIn_nil key x)
  | cons head rest ih =>
    rcases (firstIn_cons_iff ..).mp hx with rfl | ⟨hne, hx⟩
    · rcases (firstIn_cons_iff ..).mp hy with rfl | ⟨hne, -⟩
      · rfl
      · exact absurd h hne
    · rcases (firstIn_cons_iff ..).mp hy with rfl | ⟨-, hy⟩
      · exact absurd h.symm hne
      · exact ih hx hy

/-- In an ordered list the first element of a key is below all others of this key. -/
theorem FirstIn.rel_of_pairwise {R : α → α → Prop} {xs : List α} {x y : α} (h : FirstIn key xs x)
    (hxs : xs.Pairwise R) (hy : y ∈ xs) (hkey : key y = key x) : x = y ∨ R x y := by
  obtain ⟨before, after, rfl, hearlier⟩ := h
  rcases List.mem_append.mp hy with hy | hy
  · exact absurd hkey (hearlier y hy)
  · rcases List.mem_cons.mp hy with rfl | hy
    · exact .inl rfl
    · exact .inr ((List.pairwise_cons.mp (List.pairwise_append.mp hxs).2.1).1 y hy)

/-- Elements that stand in the order of the places of their keys have different keys. -/
theorem nodup_map_of_pairwise (place : κ → Nat) {xs : List α}
    (h : xs.Pairwise fun x y => place (key x) < place (key y)) : (xs.map key).Nodup := by
  refine List.pairwise_map.mpr (h.imp fun hlt heq => ?_)
  rw [heq] at hlt
  exact Nat.lt_irrefl _ hlt

variable [DecidableEq κ]

/-- The elements that are left are the first of their keys. -/
theorem mem_distinctBy_iff (xs : List α) (x : α) : x ∈ distinctBy key xs ↔ FirstIn key xs x := by
  induction xs with
  | nil => exact iff_of_false List.not_mem_nil (not_firstIn_nil key x)
  | cons head rest ih =>
    rw [distinctBy, List.mem_cons, List.mem_filter, ih, firstIn_cons_iff, decide_eq_true_eq, and_comm,
      ne_comm]

/-- How many elements stand before the first with a key. -/
def placeOf (key : α → κ) (xs : List α) (k : κ) : Nat :=
  (xs.map key).idxOf k

/-- The key of the head is in the first place. -/
theorem placeOf_cons_self (head : α) (rest : List α) : placeOf key (head :: rest) (key head) = 0 := by
  simp [placeOf]

/-- Any other key is one place further. -/
theorem placeOf_cons_of_ne {head : α} {k : κ} (h : key head ≠ k) (rest : List α) :
    placeOf key (head :: rest) k = placeOf key rest k + 1 := by
  simp [placeOf, h]

/-- The first element of a key first occurs where its key does. -/
theorem FirstIn.idxOf_eq [DecidableEq α] {xs : List α} {x : α} (h : FirstIn key xs x) :
    xs.idxOf x = placeOf key xs (key x) := by
  induction xs with
  | nil => exact absurd h (not_firstIn_nil key x)
  | cons head rest ih =>
    rcases (firstIn_cons_iff ..).mp h with rfl | ⟨hne, hrest⟩
    · rw [placeOf_cons_self, List.idxOf_cons_self]
    · have hhead : head ≠ x := fun heq => hne (congrArg key heq)
      rw [placeOf_cons_of_ne hne, List.idxOf_cons_ne _ hhead, ih hrest]

/-- Of each key the first element is kept, in order. -/
theorem distinctBy_sublist (xs : List α) : (distinctBy key xs).Sublist xs := by
  induction xs with
  | nil => exact List.Sublist.refl _
  | cons head rest ih => exact (List.filter_sublist.trans ih).cons_cons head

/-- The elements that are left keep the order in which their keys first occur; so no key is left twice. -/
theorem pairwise_place_distinctBy (xs : List α) :
    (distinctBy key xs).Pairwise fun x y => placeOf key xs (key x) < placeOf key xs (key y) := by
  induction xs with
  | nil => exact .nil
  | cons head rest ih =>
    have hother : ∀ y ∈ (distinctBy key rest).filter fun y => key y ≠ key head, key head ≠ key y := by
      intro y hy
      exact Ne.symm (of_decide_eq_true (List.mem_filter.mp hy).2)
    refine List.pairwise_cons.mpr ⟨fun y hy => ?_, ?_⟩
    · rw [placeOf_cons_self, placeOf_cons_of_ne (hother y hy)]
      exact Nat.succ_pos _
    · refine (ih.sublist List.filter_sublist).imp_of_mem fun {x y} hx hy hlt => ?_
      rw [placeOf_cons_of_ne (hother x hx), placeOf_cons_of_ne (hother y hy)]
      exact Nat.succ_lt_succ hlt

/-- Of each key one element is kept. -/
theorem nodup_map_distinctBy (xs : List α) : ((distinctBy key xs).map key).Nodup :=
  nodup_map_of_pairwise _ (pairwise_place_distinctBy xs)

end RangeAudit
