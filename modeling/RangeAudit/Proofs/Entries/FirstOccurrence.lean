import Mathlib.Data.List.Basic
import RangeAudit.Proofs.Entries.FirstOfKey
import RangeAudit.Proofs.Entries.Grouping

namespace RangeAudit

/-!
# Where elements first occur

When a list is thinned out, its elements stay in the order in which they first occur.  This is said by the
positions of the first occurrences, and these are compared across the ways in which a list comes from another.

* `map_distinctBy`, `pairwise_idxOf_eraseDups` — the distinct keys stand in the order of their first occurrences;
* `idxOf_filterMap_lt_iff` — what elements give rise to first occurs in the order in which it first arises;
* `filter_mergeSort_of_tied` — sorting does not move elements past their equals.
-/

section Distinct

variable {α : Type u} [DecidableEq α]

/-- Leaving out elements and leaving out repetitions can be done in either order. -/
theorem eraseDups_filter (p : α → Bool) (xs : List α) :
    (xs.filter p).eraseDups = xs.eraseDups.filter p := by
  induction xs using List.reverseRecOn with
  | nil => rfl
  | append_singleton xs x ih =>
    rw [Entries.eraseDups_concat, List.filter_append]
    cases hp : p x with
    | true =>
      have hmem : x ∈ xs.filter p ↔ x ∈ xs := by simp [hp]
      have hsingle : [x].filter p = [x] := by simp [hp]
      rw [hsingle, Entries.eraseDups_concat, ih, if_congr hmem rfl rfl]
      split <;> simp [hp]
    | false =>
      have hsingle : [x].filter p = [] := by simp [hp]
      rw [hsingle, List.append_nil, ih]
      split <;> simp [hp]

/-- One element is left for each key, in the order in which the keys first occur. -/
theorem map_distinctBy {β : Type v} (key : β → α) (xs : List β) :
    (distinctBy key xs).map key = (xs.map key).eraseDups := by
  induction xs with
  | nil => rfl
  | cons x rest ih =>
    rw [distinctBy, List.map_cons, List.map_cons, List.eraseDups_cons, eraseDups_filter, ← ih,
      List.filter_map]
    congr 2
    apply List.filter_congr
    intro y _
    by_cases h : key y = key x <;> simp [h]

/-- An element is its own key. -/
theorem distinctBy_id (xs : List α) : distinctBy id xs = xs.eraseDups := by
  simpa only [List.map_id] using map_distinctBy id xs

/-- The distinct elements stand in the order of their first occurrences. -/
theorem pairwise_idxOf_eraseDups (xs : List α) :
    xs.eraseDups.Pairwise fun x y => xs.idxOf x < xs.idxOf y := by
  have h : (distinctBy id xs).Pairwise fun x y => placeOf id xs (id x) < placeOf id xs (id y) :=
    pairwise_place_distinctBy xs
  simpa only [distinctBy_id, placeOf, List.map_id, id_eq] using h

end Distinct

section Arising

variable {α : Type u} {β : Type v} [DecidableEq β]

/-- What elements give rise to first occurs in the order in which it first arises. -/
theorem idxOf_filterMap_lt_iff (f : α → Option β) (xs : List α) (y z : β) :
    (xs.filterMap f).idxOf y < (xs.filterMap f).idxOf z ↔
      xs.findIdx (fun x => f x == some y) < xs.findIdx fun x => f x == some z := by
  induction xs with
  | nil => simp
  | cons x rest ih =>
    rw [List.findIdx_cons, List.findIdx_cons]
    cases hx : f x with
    | none =>
      -- Nothing arises here, so all positions are one further.
      rw [List.filterMap_cons_none hx, ih]
      simp
    | some first =>
      rw [List.filterMap_cons_some hx, List.idxOf_cons, List.idxOf_cons]
      simp only [Bool.cond_eq_ite, beq_iff_eq, Option.some.injEq]
      by_cases hy : first = y <;> by_cases hz : first = z
      · rw [if_pos hy, if_pos hz, if_pos hy, if_pos hz]
      · rw [if_pos hy, if_neg hz, if_pos hy, if_neg hz]
        omega
      · rw [if_neg hy, if_pos hz, if_neg hy, if_pos hz]
        omega
      · rw [if_neg hy, if_neg hz, if_neg hy, if_neg hz]
        omega

/-- Elements that are left in keep their order. -/
theorem idxOf_filter_lt_iff (p : β → Bool) (xs : List β) {y z : β} (hy : p y = true) (hz : p z = true) :
    (xs.filter p).idxOf y < (xs.filter p).idxOf z ↔ xs.idxOf y < xs.idxOf z := by
  have hguard : ∀ w, p w = true → (fun x => Option.guard p x == some w) = fun x => x == w := by
    intro w hw
    funext x
    by_cases hx : x = w
    · subst hx
      simp [Option.guard, hw]
    · by_cases hp : p x = true <;> simp [Option.guard, hp, hx]
  rw [← List.filterMap_eq_filter, idxOf_filterMap_lt_iff, hguard y hy, hguard z hz]
  rfl

end Arising

/-- Sorting does not move elements past their equals: if some elements may stand in any order, they stand in the
    order in which they came. -/
theorem filter_mergeSort_of_tied {α : Type u} {le : α → α → Bool}
    (htrans : ∀ a b c, le a b = true → le b c = true → le a c = true)
    (htotal : ∀ a b, (le a b || le b a) = true) {p : α → Bool}
    (hp : ∀ a b, p a = true → p b = true → le a b = true) (xs : List α) :
    (xs.mergeSort le).filter p = xs.filter p := by
  have hsorted : (xs.filter p).Pairwise fun a b => le a b = true := by
    refine List.pairwise_of_forall_mem_list fun a ha b hb => ?_
    exact hp a b (List.mem_filter.mp ha).2 (List.mem_filter.mp hb).2
  have hsublist : (xs.filter p).Sublist (xs.mergeSort le) :=
    List.sublist_mergeSort htrans htotal hsorted List.filter_sublist
  have hkept : (xs.filter p).Sublist ((xs.mergeSort le).filter p) := by
    have h := hsublist.filter p
    rwa [List.filter_filter, List.filter_congr fun a _ => Bool.and_self (p a)] at h
  -- The sorted list holds as many of them as there were.
  have hlength : (xs.filter p).length = ((xs.mergeSort le).filter p).length :=
    ((List.mergeSort_perm xs le).filter p).length_eq.symm
  exact (hkept.eq_of_length hlength).symm

end RangeAudit
