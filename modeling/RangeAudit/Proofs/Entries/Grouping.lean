import Mathlib.Data.List.Induction
import RangeAudit.Entries

namespace RangeAudit.Entries

/-!
# Grouping by a key

Several tables are made in one pass that adds each element to the group of its key.  What comes out can
be said without the pass: a group for each key that occurs, in the order in which the keys first occur,
and in it the elements of that key in order.

* `grouped` — the groups of a list;
* `foldl_addTo` — the pass yields them;
* `find?_grouped`, `ne_nil_of_mem_grouped` — what is found under a key, and that no group is empty.
-/

variable {α : Type u} {κ : Type v} [DecidableEq κ]

/-- The groups of a list, by a key of its elements. -/
def grouped (key : α → κ) (xs : List α) : Entries κ (List α) :=
  (xs.map key).eraseDups.map fun k => (k, xs.filter fun x => key x = k)

/-- Add an element to the group of its key. -/
def addTo (key : α → κ) (groups : Entries κ (List α)) (x : α) : Entries κ (List α) :=
  groups.update (key x) [] (· ++ [x])

/-! ### Tables given by their keys -/

section Tabulated

variable {ν : Type w} (f : κ → ν)

theorem find?_map_pair (keys : List κ) (key : κ) :
    find? (keys.map fun k => (k, f k)) key = if key ∈ keys then some (f key) else none := by
  induction keys with
  | nil => simp
  | cons k rest ih =>
    rw [List.map_cons, find?_cons, ih]
    by_cases h : k = key
    · subst h; simp
    · simp [h, Ne.symm h]

/-- A new key comes last. -/
theorem put_map_pair_of_not_mem {keys : List κ} {key : κ} (h : key ∉ keys) (value : ν) :
    put (keys.map fun k => (k, f k)) key value = (keys.map fun k => (k, f k)) ++ [(key, value)] := by
  induction keys with
  | nil => rfl
  | cons k rest ih =>
    rw [List.mem_cons, not_or] at h
    rw [List.map_cons, put, if_neg (Ne.symm h.1), ih h.2, List.cons_append]

/-- A known key keeps its place. -/
theorem put_map_pair_of_mem {keys : List κ} (hkeys : keys.Nodup) {key : κ} (h : key ∈ keys) (value : ν) :
    put (keys.map fun k => (k, f k)) key value =
      keys.map fun k => (k, if k = key then value else f k) := by
  induction keys with
  | nil => cases h
  | cons k rest ih =>
    obtain ⟨hk, hrest⟩ := List.nodup_cons.mp hkeys
    rw [List.map_cons, List.map_cons, put]
    by_cases hkey : k = key
    · -- The key does not occur again, so the other values stay.
      subst hkey
      rw [if_pos rfl, if_pos rfl]
      congr 1
      refine List.map_congr_left fun other hother => ?_
      rw [if_neg]
      rintro rfl
      exact hk hother
    · rw [if_neg hkey, if_neg hkey, ih hrest ((List.mem_cons.mp h).resolve_left (Ne.symm hkey))]

end Tabulated

/-! ### The pass -/

/-- The keys in the order in which they first occur: one more key comes last if it is new. -/
theorem eraseDups_concat (keys : List κ) (k : κ) :
    (keys ++ [k]).eraseDups = if k ∈ keys then keys.eraseDups else keys.eraseDups ++ [k] := by
  rw [List.eraseDups_append]
  by_cases h : k ∈ keys
  · simp [List.removeAll, h]
  · simp [List.removeAll, h, List.eraseDups_cons]

theorem nodup_eraseDups (keys : List κ) : keys.eraseDups.Nodup := by
  induction keys using List.reverseRecOn with
  | nil => simp
  | append_singleton keys k ih =>
    rw [eraseDups_concat]
    split
    · exact ih
    · rename_i h
      refine List.nodup_append.mpr ⟨ih, by simp, ?_⟩
      intro other hother last hlast heq
      rw [List.mem_singleton.mp hlast] at heq
      exact h (heq ▸ List.mem_eraseDups.mp hother)

/-- One more element is added to the group of its key. -/
theorem grouped_concat (key : α → κ) (xs : List α) (x : α) :
    grouped key (xs ++ [x]) = addTo key (grouped key xs) x := by
  have hfind : (grouped key xs).find? (key x) =
      if key x ∈ (xs.map key).eraseDups then some (xs.filter fun y => key y = key x) else none :=
    find?_map_pair (fun k => xs.filter fun y => key y = k) _ _
  have hkeys : (xs ++ [x]).map key = xs.map key ++ [key x] := by simp
  rw [addTo, update, hfind, grouped, hkeys, eraseDups_concat]
  by_cases h : key x ∈ xs.map key
  · -- The key is known, and its group grows.
    have hmem : key x ∈ (xs.map key).eraseDups := List.mem_eraseDups.mpr h
    rw [if_pos h, if_pos hmem, grouped, put_map_pair_of_mem _ (nodup_eraseDups _) hmem,
      Option.getD_some]
    refine List.map_congr_left fun k _ => ?_
    by_cases hk : k = key x
    · subst hk; simp
    · simp [hk, Ne.symm hk]
  · -- The key is new, and no element before has it.
    have hmem : key x ∉ (xs.map key).eraseDups := fun hin => h (List.mem_eraseDups.mp hin)
    have hempty : (xs.filter fun y => key y = key x) = [] := by
      rw [List.filter_eq_nil_iff]
      intro y hy hkey
      exact h (List.mem_map.mpr ⟨y, hy, by simpa using hkey⟩)
    rw [if_neg h, if_neg hmem, List.map_append, grouped, put_map_pair_of_not_mem _ hmem]
    refine congrArg₂ (· ++ ·) (List.map_congr_left fun k hk => ?_) ?_
    · have hne : key x ≠ k := fun heq => hmem (heq ▸ hk)
      simp [hne]
    · simp [hempty]

/-- **The pass yields the groups.** -/
theorem foldl_addTo (key : α → κ) (xs : List α) : xs.foldl (addTo key) [] = grouped key xs := by
  induction xs using List.reverseRecOn with
  | nil => rfl
  | append_singleton xs x ih =>
    rw [List.foldl_append, ih, grouped_concat]
    rfl

/-! ### What is found in the groups -/

/-- Under a key stands the list of its elements, if there are any. -/
theorem find?_grouped (key : α → κ) (xs : List α) (k : κ) :
    ((grouped key xs).find? k).getD [] = xs.filter fun x => key x = k := by
  rw [grouped, find?_map_pair]
  split
  · rfl
  · rename_i h
    rw [List.mem_eraseDups] at h
    rw [Option.getD_none, eq_comm, List.filter_eq_nil_iff]
    intro x hx hkey
    exact h (List.mem_map.mpr ⟨x, hx, by simpa using hkey⟩)

/-- No group is empty. -/
theorem ne_nil_of_mem_grouped {key : α → κ} {xs : List α} {group : κ × List α}
    (h : group ∈ grouped key xs) : group.2 ≠ [] := by
  obtain ⟨k, hk, rfl⟩ := List.mem_map.mp h
  obtain ⟨x, hx, rfl⟩ := List.mem_map.mp (List.mem_eraseDups.mp hk)
  exact List.ne_nil_of_mem (List.mem_filter.mpr ⟨hx, by simp⟩)

end RangeAudit.Entries
