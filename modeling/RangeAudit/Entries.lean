namespace RangeAudit

/-!
# Entries: ordered association lists

Keyed data keeps the order in which its keys first appeared: putting a value under a key that is
already present replaces the value and keeps the place. This is the order in which the members of a
wire object, the variables of a step and the lines of a report are seen.

* `Entries.find?` : the value under a key;
* `Entries.put` : replace in place, or append;
* `Entries.update` : `put` computed from the value found.
-/

/-- Keyed values in the order in which the keys first appeared. -/
abbrev Entries (κ : Type u) (ν : Type v) := List (κ × ν)

namespace Entries

variable {κ : Type u} {ν : Type v} [DecidableEq κ]

/-- The value of the first entry under `key`. -/
def find? (entries : Entries κ ν) (key : κ) : Option ν :=
  match entries with
  | [] => none
  | (k, v) :: rest => if k = key then some v else find? rest key

/-- Is there an entry under `key`? -/
def has (entries : Entries κ ν) (key : κ) : Bool :=
  (entries.find? key).isSome

/-- Put `value` under `key`: in the place of the entry that has the key, else at the end. -/
def put (entries : Entries κ ν) (key : κ) (value : ν) : Entries κ ν :=
  match entries with
  | [] => [(key, value)]
  | (k, v) :: rest => if k = key then (k, value) :: rest else (k, v) :: put rest key value

/-- Replace the value under `key` by a function of it, starting from `initial` when there is none. -/
def update (entries : Entries κ ν) (key : κ) (initial : ν) (f : ν → ν) : Entries κ ν :=
  entries.put key (f ((entries.find? key).getD initial))

/-- The keys, in order. -/
def keys (entries : Entries κ ν) : List κ :=
  entries.map Prod.fst

/-- The entries of a list of pairs: a repeated key keeps its first place and its last value. -/
def ofList (pairs : List (κ × ν)) : Entries κ ν :=
  pairs.foldl (fun entries pair => entries.put pair.1 pair.2) []

/-! ### What is found after a `put` -/

@[simp] theorem find?_nil (key : κ) : find? ([] : Entries κ ν) key = none := rfl

theorem find?_cons (k : κ) (v : ν) (rest : Entries κ ν) (key : κ) :
    find? ((k, v) :: rest) key = if k = key then some v else find? rest key := rfl

/-- The value just put is found under its key. -/
@[simp] theorem find?_put_self (entries : Entries κ ν) (key : κ) (value : ν) :
    (entries.put key value).find? key = some value := by
  induction entries with
  | nil => simp [put, find?]
  | cons head rest ih =>
    obtain ⟨k, v⟩ := head
    by_cases h : k = key <;> simp [put, find?, h, ih]

/-- Other keys are found as before. -/
theorem find?_put_of_ne (entries : Entries κ ν) {key other : κ} (value : ν) (h : other ≠ key) :
    (entries.put key value).find? other = entries.find? other := by
  induction entries with
  | nil => simp [put, find?, Ne.symm h]
  | cons head rest ih =>
    obtain ⟨k, v⟩ := head
    by_cases hk : k = key
    · subst hk; simp [put, find?, Ne.symm h]
    · by_cases ho : k = other
      · subst ho; simp [put, find?, hk]
      · simp [put, find?, hk, ho, ih]

/-- The value found after a `put`, in one equation. -/
theorem find?_put (entries : Entries κ ν) (key other : κ) (value : ν) :
    (entries.put key value).find? other =
      if other = key then some value else entries.find? other := by
  by_cases h : other = key
  · subst h; simp
  · simp [h, find?_put_of_ne entries value h]

/-- What is found is an entry. -/
theorem mem_of_find? {entries : Entries κ ν} {key : κ} {value : ν}
    (h : entries.find? key = some value) : (key, value) ∈ entries := by
  induction entries with
  | nil => simp at h
  | cons head rest ih =>
    obtain ⟨k, v⟩ := head
    rw [find?_cons] at h
    split at h
    · rename_i hk
      cases h
      simp [hk]
    · exact List.mem_cons_of_mem _ (ih h)

/-- An entry after a `put` is the one that was put, or was there before. -/
theorem mem_put {entries : Entries κ ν} {key : κ} {value : ν} {entry : κ × ν}
    (h : entry ∈ entries.put key value) : entry = (key, value) ∨ entry ∈ entries := by
  induction entries with
  | nil => simpa [put] using h
  | cons head rest ih =>
    obtain ⟨k, v⟩ := head
    simp only [put] at h
    split at h
    · rename_i hk
      subst hk
      rcases List.mem_cons.mp h with h | h
      · exact .inl h
      · exact .inr (List.mem_cons_of_mem _ h)
    · rcases List.mem_cons.mp h with h | h
      · exact .inr (h ▸ List.mem_cons_self)
      · exact (ih h).imp_right (List.mem_cons_of_mem _)

/-- A key is found exactly when it is among the keys. -/
theorem isSome_find?_iff (entries : Entries κ ν) (key : κ) :
    (entries.find? key).isSome ↔ key ∈ entries.keys := by
  induction entries with
  | nil => simp [keys]
  | cons head rest ih =>
    obtain ⟨k, v⟩ := head
    simp only [keys, List.map_cons, List.mem_cons] at ih ⊢
    by_cases h : k = key
    · simp [find?, h]
    · simp [find?, h, ih, Ne.symm h]

/-- The keys after a `put`: a new key comes last, a known one changes nothing. -/
theorem keys_put (entries : Entries κ ν) (key : κ) (value : ν) :
    (entries.put key value).keys =
      if key ∈ entries.keys then entries.keys else entries.keys ++ [key] := by
  induction entries with
  | nil => simp [put, keys]
  | cons head rest ih =>
    obtain ⟨k, v⟩ := head
    simp only [keys] at ih
    by_cases h : k = key
    · simp [put, keys, h]
    · simp only [put, if_neg h, keys, List.map_cons, ih, List.mem_cons]
      by_cases hm : key ∈ List.map Prod.fst rest <;> simp [hm, Ne.symm h]

/-- A `put` keeps the keys free of repetitions. -/
theorem nodup_keys_put {entries : Entries κ ν} (h : entries.keys.Nodup) (key : κ) (value : ν) :
    (entries.put key value).keys.Nodup := by
  rw [keys_put]
  split
  · exact h
  · rename_i hm
    exact List.nodup_append.2 ⟨h, by simp, fun a ha b hb => by
      simp only [List.mem_singleton] at hb
      subst hb
      exact fun e => hm (e ▸ ha)⟩

/-- The keys of entries built from a list are free of repetitions. -/
theorem nodup_keys_ofList (pairs : List (κ × ν)) : (ofList pairs).keys.Nodup := by
  suffices h : ∀ (entries : Entries κ ν), entries.keys.Nodup →
      (pairs.foldl (fun entries pair => entries.put pair.1 pair.2) entries).keys.Nodup from
    h [] (by simp [keys])
  induction pairs with
  | nil => exact fun entries h => h
  | cons pair rest ih => exact fun entries h => ih _ (nodup_keys_put h _ _)

end Entries

end RangeAudit
