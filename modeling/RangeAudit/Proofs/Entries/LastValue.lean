import Mathlib.Data.List.Induction
import RangeAudit.Entries

namespace RangeAudit.Entries

/-!
# The last value of a key

Entries that are made from a list of pairs have under each key the last value that the list gives it.

* `LastIn` — the pairs that no later pair of their key replaces;
* `find?_ofList_eq_some_iff`, `mem_ofList_iff` — they are what is found, and what there is;
* `ofList_of_nodup`, `count_ofList_eq_iff` — nothing is lost if and only if no key is repeated;
* `ofList_map_key` — the keys may be written in another way.
-/

variable {κ : Type u} {ν : Type v}

/-- The pair is in the list, and no pair after it has its key. -/
def LastIn (pairs : List (κ × ν)) (pair : κ × ν) : Prop :=
  ∃ before after, pairs = before ++ pair :: after ∧ ∀ later ∈ after, later.1 ≠ pair.1

theorem not_lastIn_nil (pair : κ × ν) : ¬ LastIn [] pair := by
  rintro ⟨before, after, hsplit, -⟩
  simp at hsplit

/-- One more pair replaces those of its key. -/
theorem lastIn_concat_iff (pairs : List (κ × ν)) (last pair : κ × ν) :
    LastIn (pairs ++ [last]) pair ↔ pair = last ∨ pair.1 ≠ last.1 ∧ LastIn pairs pair := by
  constructor
  · rintro ⟨before, after, hsplit, hlater⟩
    rcases List.eq_nil_or_concat after with rfl | ⟨after, other, rfl⟩
    · exact .inl (List.singleton_inj.mp (List.append_inj_right' hsplit rfl)).symm
    · rw [List.concat_eq_append] at hsplit hlater
      -- The pair that comes after this one is the last, so that the keys differ.
      have hends : pairs ++ [last] = (before ++ pair :: after) ++ [other] := by
        rw [hsplit, List.append_assoc, List.cons_append]
      obtain ⟨rfl, hother⟩ := List.append_inj' hends rfl
      obtain rfl := List.singleton_inj.mp hother
      have hne : last.1 ≠ pair.1 := hlater last (List.mem_append_right _ List.mem_cons_self)
      exact .inr ⟨hne.symm, before, after, rfl,
        fun later hmem => hlater later (List.mem_append_left _ hmem)⟩
  · rintro (rfl | ⟨hne, before, after, rfl, hlater⟩)
    · exact ⟨pairs, [], rfl, by simp⟩
    · refine ⟨before, after ++ [last], by simp, fun later hmem => ?_⟩
      rcases List.mem_append.mp hmem with hmem | hmem
      · exact hlater later hmem
      · rw [List.mem_singleton.mp hmem]
        exact hne.symm

/-- A key that occurs has a last value. -/
theorem exists_lastIn_of_mem {pairs : List (κ × ν)} {key : κ} {value : ν} (h : (key, value) ∈ pairs) :
    ∃ last, LastIn pairs (key, last) := by
  induction pairs using List.reverseRecOn with
  | nil => cases h
  | append_singleton pairs last ih =>
    by_cases hkey : key = last.1
    · subst hkey
      exact ⟨last.2, (lastIn_concat_iff ..).mpr (.inl rfl)⟩
    · have hmem : (key, value) ∈ pairs := by
        rcases List.mem_append.mp h with h | h
        · exact h
        · exact absurd (congrArg Prod.fst (List.mem_singleton.mp h)) hkey
      obtain ⟨found, hfound⟩ := ih hmem
      exact ⟨found, (lastIn_concat_iff ..).mpr (.inr ⟨hkey, hfound⟩)⟩

variable [DecidableEq κ]

theorem ofList_concat (pairs : List (κ × ν)) (pair : κ × ν) :
    ofList (pairs ++ [pair]) = (ofList pairs).put pair.1 pair.2 := by
  rw [ofList, List.foldl_append]
  rfl

/-- Under a key stands the last value that the list gives it. -/
theorem find?_ofList_eq_some_iff (pairs : List (κ × ν)) (key : κ) (value : ν) :
    (ofList pairs).find? key = some value ↔ LastIn pairs (key, value) := by
  induction pairs using List.reverseRecOn with
  | nil => simp [ofList, not_lastIn_nil]
  | append_singleton pairs last ih =>
    rw [ofList_concat, find?_put, lastIn_concat_iff, ← ih]
    by_cases hkey : key = last.1
    · simp [hkey, Prod.ext_iff, eq_comm]
    · simp [hkey, Prod.ext_iff]

/-- In entries without a repeated key, every entry is found. -/
theorem find?_eq_some_of_mem {entries : Entries κ ν} (hkeys : entries.keys.Nodup) {key : κ} {value : ν}
    (h : (key, value) ∈ entries) : entries.find? key = some value := by
  induction entries with
  | nil => cases h
  | cons entry rest ih =>
    obtain ⟨hfirst, hrest⟩ := List.nodup_cons.mp hkeys
    rcases List.mem_cons.mp h with rfl | h
    · rw [find?_cons, if_pos rfl]
    · have hne : entry.1 ≠ key := by
        rintro rfl
        exact hfirst (List.mem_map.mpr ⟨_, h, rfl⟩)
      rw [find?_cons, if_neg hne, ih hrest h]

/-- The entries made from a list are the pairs that no later pair replaces. -/
theorem mem_ofList_iff (pairs : List (κ × ν)) (pair : κ × ν) :
    pair ∈ ofList pairs ↔ LastIn pairs pair := by
  rw [← find?_ofList_eq_some_iff]
  exact ⟨find?_eq_some_of_mem (nodup_keys_ofList pairs), mem_of_find?⟩

/-- Filling a mapping brings nothing in that is not among the pairs. -/
theorem mem_of_mem_ofList {pairs : List (κ × ν)} {pair : κ × ν} (h : pair ∈ ofList pairs) : pair ∈ pairs := by
  obtain ⟨before, after, rfl, -⟩ := (mem_ofList_iff pairs pair).mp h
  exact List.mem_append_right _ List.mem_cons_self

/-! ### Repeated keys -/

theorem put_of_notMem {entries : Entries κ ν} {key : κ} (h : key ∉ entries.keys) (value : ν) :
    entries.put key value = entries ++ [(key, value)] := by
  induction entries with
  | nil => rfl
  | cons entry rest ih =>
    simp only [keys, List.map_cons, List.mem_cons, not_or] at h
    rw [put, if_neg (Ne.symm h.1), ih h.2, List.cons_append]

/-- A list without a repeated key is kept as it is. -/
theorem ofList_of_nodup {pairs : List (κ × ν)} (h : (pairs.map Prod.fst).Nodup) : ofList pairs = pairs := by
  induction pairs using List.reverseRecOn with
  | nil => rfl
  | append_singleton pairs last ih =>
    rw [List.map_append, List.map_singleton, List.nodup_append] at h
    obtain ⟨hpairs, -, hlast⟩ := h
    have hnew : last.1 ∉ keys pairs := fun hmem => hlast _ hmem _ (List.mem_singleton.mpr rfl) rfl
    rw [ofList_concat, ih hpairs, put_of_notMem hnew]

/-- Every pair is kept as often as it occurs if and only if no key is repeated. -/
theorem count_ofList_eq_iff [DecidableEq ν] (pairs : List (κ × ν)) :
    (∀ pair, (ofList pairs).count pair = pairs.count pair) ↔ (pairs.map Prod.fst).Nodup := by
  constructor
  · intro h
    -- What occurs equally often is a permutation, and the entries have no key twice.
    have hperm : (ofList pairs).Perm pairs := List.perm_iff_count.mpr h
    exact (hperm.map Prod.fst).nodup_iff.mp (nodup_keys_ofList pairs)
  · intro h pair
    rw [ofList_of_nodup h]

section MapKey

variable {κ' : Type w} [DecidableEq κ'] {f : κ → κ'}

theorem put_map_key (hf : Function.Injective f) (entries : Entries κ ν) (key : κ) (value : ν) :
    put (entries.map fun entry => (f entry.1, entry.2)) (f key) value =
      (entries.put key value).map fun entry => (f entry.1, entry.2) := by
  induction entries with
  | nil => rfl
  | cons entry rest ih =>
    by_cases hkey : entry.1 = key
    · simp [put, hkey]
    · simp [put, hkey, hf.ne hkey, ih]

/-- Keys that are told apart in another way of writing make no other entries. -/
theorem ofList_map_key (hf : Function.Injective f) (pairs : List (κ × ν)) :
    ofList (pairs.map fun pair => (f pair.1, pair.2)) = (ofList pairs).map fun pair => (f pair.1, pair.2) := by
  induction pairs using List.reverseRecOn with
  | nil => rfl
  | append_singleton pairs last ih =>
    rw [List.map_append, List.map_singleton, ofList_concat, ofList_concat, ih, put_map_key hf]

end MapKey

end RangeAudit.Entries
