import Mathlib.Data.List.Basic
import RangeAudit.Proofs.Entries.Grouping
import RangeAudit.Proofs.Entries.LastValue

namespace RangeAudit.Entries

/-!
# What a pass leaves in a table

Tables are filled in passes over a list: an element is added to the list under its key, the value under a key
is changed, or a value is put where there is none.  For each kind of pass, what it leaves under a key is said
by what the table held there and the elements with that key.

* `collect`, `getD_find?_foldl_collect` — adding elements to the lists under their keys;
* `find?_foldl_update` — changing the values under keys that do not repeat;
* `putNew`, `find?_foldl_putNew`, `keys_foldl_putNew` — putting values where there are none;
* `find?_map`, `find?_eq_of_perm` — replacing keys and values, and the order of a table;
* `find?_filterMap`, `filter_filterMap` — a table of elements that have keys, and what the entry under a key gives
  rise to.
-/

/-- What is found after the keys were replaced by others that tell them apart, and the values by others. -/
theorem find?_map {κ κ' ν ν' : Type} [DecidableEq κ] [DecidableEq κ'] {f : κ → κ'}
    (hf : Function.Injective f) (g : ν → ν') (entries : Entries κ ν) (key : κ) :
    find? (entries.map fun entry => (f entry.1, g entry.2)) (f key) = (entries.find? key).map g := by
  induction entries with
  | nil => rfl
  | cons entry rest ih =>
    rw [List.map_cons, find?_cons, ih, find?_cons]
    by_cases h : entry.1 = key
    · rw [if_pos h, if_pos (congrArg f h), Option.map_some]
    · rw [if_neg h, if_neg fun heq => h (hf heq)]

variable {α : Type u} {κ : Type v} {ν : Type w} {ν' : Type x}

/-- A pass whose steps repeat no key repeats none. -/
theorem nodup_keys_foldl {step : Entries κ ν → α → Entries κ ν}
    (hstep : ∀ {entries : Entries κ ν}, entries.keys.Nodup → ∀ x, (step entries x).keys.Nodup)
    {entries : Entries κ ν} (h : entries.keys.Nodup) (xs : List α) : (xs.foldl step entries).keys.Nodup := by
  induction xs generalizing entries with
  | nil => exact h
  | cons x rest ih => exact ih (hstep h x)

variable [DecidableEq κ]

/-- In a table without a repeated key, what is found are the entries. -/
theorem find?_eq_some_iff {entries : Entries κ ν} (h : entries.keys.Nodup) (key : κ) (value : ν) :
    entries.find? key = some value ↔ (key, value) ∈ entries :=
  ⟨mem_of_find?, find?_eq_some_of_mem h⟩

/-- The order of the entries does not matter for what is found, as long as no key is repeated. -/
theorem find?_eq_of_perm {entries other : Entries κ ν} (h : entries.Perm other)
    (hkeys : entries.keys.Nodup) (key : κ) : entries.find? key = other.find? key := by
  have hother : other.keys.Nodup := (h.map Prod.fst).nodup_iff.mp hkeys
  refine Option.ext fun value => ?_
  rw [find?_eq_some_iff hkeys, find?_eq_some_iff hother, h.mem_iff]

/-- Of the elements that a table without a repeated key gives rise to, those with a key come from its entry. -/
theorem filter_filterMap {entries : Entries κ ν} (h : entries.keys.Nodup) {f : κ × ν → Option α}
    {key : α → κ} (hkey : ∀ entry x, f entry = some x → key x = entry.1) (k : κ) :
    (entries.filterMap f).filter (fun x => key x = k) =
      ((entries.find? k).bind fun value => f (k, value)).toList := by
  induction entries with
  | nil => rfl
  | cons entry rest ih =>
    obtain ⟨first, value⟩ := entry
    obtain ⟨hnew, hrest⟩ := List.nodup_cons.mp h
    have ih := ih hrest
    rw [find?_cons, List.filterMap_cons]
    by_cases hfirst : first = k
    · -- The key does not come again.
      subst hfirst
      have hnone : find? rest first = none := by
        rw [← Option.not_isSome_iff_eq_none, isSome_find?_iff]
        exact hnew
      rw [hnone] at ih
      cases hf : f (first, value) with
      | none => simpa [hf] using ih
      | some x => simpa [hf, hkey _ x hf] using ih
    · cases hf : f (first, value) with
      | none => simpa [hf, hfirst] using ih
      | some x => simpa [hf, hkey _ x hf, hfirst] using ih

/-- In the table of the elements that have a key, what is found comes from the first element with the key. -/
theorem find?_filterMap (key? : α → Option κ) (value : α → ν) (xs : List α) (k : κ) :
    find? (xs.filterMap fun x => (key? x).map fun key => (key, value x)) k =
      (xs.find? fun x => key? x == some k).map value := by
  induction xs with
  | nil => rfl
  | cons x rest ih =>
    rw [List.filterMap_cons, List.find?_cons]
    cases hkey : key? x with
    | none => simpa using ih
    | some key =>
      rw [Option.map_some, find?_cons, ih]
      by_cases h : key = k
      · simp [h]
      · have hne : (some key == some k) = false := by simpa using h
        rw [if_neg h, hne]

/-- A value that is changed is changed under its key only. -/
theorem find?_update (entries : Entries κ ν) (key other : κ) (initial : ν) (f : ν → ν) :
    (entries.update key initial f).find? other =
      if other = key then some (f ((entries.find? key).getD initial)) else entries.find? other :=
  find?_put ..

/-- An update keeps the keys distinct. -/
theorem nodup_keys_update {entries : Entries κ ν} (h : entries.keys.Nodup) (key : κ) (initial : ν)
    (f : ν → ν) : (entries.update key initial f).keys.Nodup :=
  nodup_keys_put h _ _

/-! ### Lists under keys -/

/-- Add an element to the list under its key, if it has one. -/
def collect (key? : α → Option κ) (lists : Entries κ (List α)) (x : α) : Entries κ (List α) :=
  match key? x with
  | some k => lists.update k [] (· ++ [x])
  | none => lists

/-- An element with a key is added to the list of the key. -/
theorem collect_of_eq_some (key? : α → Option κ) {x : α} {k : κ} (h : key? x = some k)
    (lists : Entries κ (List α)) : collect key? lists x = lists.update k [] (· ++ [x]) := by
  rw [collect, h]

/-- An element without a key is passed over. -/
theorem collect_of_eq_none (key? : α → Option κ) {x : α} (h : key? x = none)
    (lists : Entries κ (List α)) : collect key? lists x = lists := by
  rw [collect, h]

section Collect

variable (key? : α → Option κ)

/-- A step of the pass adds the element to the list of its key, and leaves the other lists. -/
theorem getD_find?_collect (lists : Entries κ (List α)) (x : α) (k : κ) :
    ((collect key? lists x).find? k).getD [] =
      (lists.find? k).getD [] ++ if key? x = some k then [x] else [] := by
  cases hkey : key? x with
  | none => simp [collect_of_eq_none key? hkey]
  | some other =>
    rw [collect_of_eq_some key? hkey, find?_update]
    by_cases h : k = other
    · simp [h]
    · simp [h, Ne.symm h]

/-- The elements with a key are added to the list under it, in order. -/
theorem getD_find?_foldl_collect (xs : List α) (lists : Entries κ (List α)) (k : κ) :
    ((xs.foldl (collect key?) lists).find? k).getD [] =
      (lists.find? k).getD [] ++ xs.filter fun x => key? x = some k := by
  induction xs generalizing lists with
  | nil => simp
  | cons x rest ih =>
    rw [List.foldl_cons, ih, getD_find?_collect, List.append_assoc]
    by_cases h : key? x = some k <;> simp [h]

variable {key?}

/-- A step of the pass keeps the keys distinct. -/
theorem nodup_keys_collect {lists : Entries κ (List α)} (h : lists.keys.Nodup) (x : α) :
    (collect key? lists x).keys.Nodup := by
  cases hkey : key? x with
  | none => rwa [collect_of_eq_none key? hkey]
  | some k =>
    rw [collect_of_eq_some key? hkey]
    exact nodup_keys_update h _ _ _

/-- No list is empty after a pass. -/
theorem ne_nil_of_mem_foldl_collect {lists : Entries κ (List α)} (h : ∀ entry ∈ lists, entry.2 ≠ [])
    (xs : List α) : ∀ entry ∈ xs.foldl (collect key?) lists, entry.2 ≠ [] := by
  induction xs generalizing lists with
  | nil => exact h
  | cons x rest ih =>
    refine ih fun entry hentry => ?_
    cases hkey : key? x with
    | none =>
      rw [collect_of_eq_none key? hkey] at hentry
      exact h entry hentry
    | some k =>
      rw [collect_of_eq_some key? hkey] at hentry
      rcases mem_put hentry with rfl | hentry
      · exact List.append_ne_nil_of_right_ne_nil _ (List.cons_ne_nil _ _)
      · exact h entry hentry

end Collect

/-! ### Values under keys -/

/-- A pass that changes the value under each of some keys, once each. -/
theorem find?_foldl_update (f : κ × ν' → ν → ν) (initial : ν) {pairs : Entries κ ν'}
    (hpairs : pairs.keys.Nodup) (entries : Entries κ ν) (key : κ) :
    (pairs.foldl (fun entries pair => entries.update pair.1 initial (f pair)) entries).find? key =
      ((pairs.find? key).map fun value => f (key, value) ((entries.find? key).getD initial)).or
        (entries.find? key) := by
  induction pairs generalizing entries with
  | nil => rfl
  | cons pair rest ih =>
    obtain ⟨k, value⟩ := pair
    obtain ⟨hnew, hrest⟩ := List.nodup_cons.mp hpairs
    rw [List.foldl_cons, ih hrest, find?_cons]
    by_cases hk : k = key
    · -- The key does not come again.
      subst hk
      have hnone : find? rest k = none := by
        rw [← Option.not_isSome_iff_eq_none, isSome_find?_iff]
        exact hnew
      simp [hnone, find?_update]
    · simp [hk, find?_update, Ne.symm hk]

/-- Put a value under a key that has none. -/
def putNew (entries : Entries κ ν) (pair : κ × ν) : Entries κ ν :=
  if entries.has pair.1 then entries else entries.put pair.1 pair.2

/-- What was under a key stays, and else the first value that the list gives it is put there. -/
theorem find?_foldl_putNew (pairs entries : Entries κ ν) (key : κ) :
    (pairs.foldl putNew entries).find? key = (entries.find? key).or (pairs.find? key) := by
  induction pairs generalizing entries with
  | nil => simp
  | cons pair rest ih =>
    obtain ⟨k, value⟩ := pair
    rw [List.foldl_cons, ih, find?_cons, putNew]
    by_cases hhas : entries.has k = true
    · rw [if_pos hhas]
      by_cases hk : k = key
      · subst hk
        obtain ⟨found, hfound⟩ := Option.isSome_iff_exists.mp hhas
        simp [hfound]
      · simp [hk]
    · rw [if_neg hhas, find?_put]
      by_cases hk : k = key
      · -- The value that is put here is the first for the key.
        subst hk
        have hnone : entries.find? k = none := by simpa [has] using hhas
        simp [hnone]
      · simp [hk, Ne.symm hk]

/-- A key that is new is put at the end. -/
theorem keys_putNew (entries : Entries κ ν) (pair : κ × ν) :
    (putNew entries pair).keys =
      if pair.1 ∈ entries.keys then entries.keys else entries.keys ++ [pair.1] := by
  have hhas : entries.has pair.1 = true ↔ pair.1 ∈ entries.keys := isSome_find?_iff entries pair.1
  rw [putNew]
  by_cases h : pair.1 ∈ entries.keys
  · rw [if_pos (hhas.mpr h), if_pos h]
  · rw [if_neg fun hmem => h (hhas.mp hmem), keys_put]

/-- The keys are those of the list, in the order in which they first occur. -/
theorem keys_foldl_putNew (pairs : Entries κ ν) : (pairs.foldl putNew []).keys = pairs.keys.eraseDups := by
  induction pairs using List.reverseRecOn with
  | nil => rfl
  | append_singleton pairs pair ih =>
    have hkeys : keys (pairs ++ [pair]) = keys pairs ++ [pair.1] := List.map_append
    rw [List.foldl_append, List.foldl_cons, List.foldl_nil, keys_putNew, ih, hkeys, eraseDups_concat]
    exact if_congr List.mem_eraseDups rfl rfl

/-- Putting what is new keeps the keys distinct. -/
theorem nodup_keys_putNew {entries : Entries κ ν} (h : entries.keys.Nodup) (pair : κ × ν) :
    (putNew entries pair).keys.Nodup := by
  unfold putNew
  split
  · exact h
  · exact nodup_keys_put h _ _

end RangeAudit.Entries
