import RangeAudit.Domain.Tracker
import RangeAudit.Proofs.Entries.Passes
import RangeAudit.Trace.Reading

namespace RangeAudit

/-!
# The latest mention of a variable

The domains along a path are folded up step by step: a step puts the domains that it mentions in the place of
earlier ones.  So what the fold holds of a variable is its latest mention.

* `PathTrace.ListsOnce`, `listsOnce_of_ofWire` — a step lists a variable at most once, on every path that is read;
* `Mentions`, `mentionAt?` — a step gives a variable a domain;
* `IsLatest` — it does, and no later one does;
* `Tracked.after_succ`, `Tracked.find?_after_succ` — one more step is absorbed;
* `Tracked.find?_after_eq_some_iff`, `Tracked.has_after_iff` — the fold holds the latest mentions;
* `Tracker.at?_natCast`, `Tracker.at?_eq_some_iff` — the tracker answers with the fold up to a step, or up to the
  last one;
* `Tracker.stepDiffs_eq_diffs` — and what a step reports is seen against the fold before it.
-/

/-- Each step lists a variable at most once. -/
def PathTrace.ListsOnce (path : PathTrace) : Prop :=
  ∀ step ∈ path.steps, (Entries.keys step.ranges).Nodup

instance (path : PathTrace) : Decidable path.ListsOnce :=
  inferInstanceAs (Decidable (∀ step ∈ path.steps, (Entries.keys step.ranges).Nodup))

/-- The step at a position gives a variable a domain. -/
def Mentions (steps : List Step) (k : Nat) (name : String) (range : ValueRange) : Prop :=
  ∃ step, steps[k]? = some step ∧ (name, range) ∈ step.ranges

/-- The domain that the step at a position gives a variable. -/
def mentionAt? (steps : List Step) (k : Nat) (name : String) : Option ValueRange :=
  steps[k]?.bind fun step => Entries.find? step.ranges name

/-- What is held of a variable is its latest mention among the first steps. -/
structure IsLatest (steps : List Step) (count : Nat) (name : String) (found : Tracked) : Prop where
  within : found.lastStep < count
  mentioned : Mentions steps found.lastStep name found.range
  latest : ∀ k < count, ∀ range, Mentions steps k name range → k ≤ found.lastStep

/-! ### Paths that are read -/

/-- The ranges of a step are read as a mapping: each variable has one. -/
theorem nodup_keys_rangesOfWire (v : Wire.Value) : (Entries.keys (rangesOfWire v)).Nodup := by
  cases v with
  | obj fields => exact Entries.nodup_keys_ofList _
  | null | bool _ | int _ | real _ | str _ | arr _ => exact List.nodup_nil

/-- Hence a step that was read lists each variable once. -/
theorem nodup_keys_ofWire (v : Wire.Value) : (Entries.keys (Step.ofWire v).ranges).Nodup := by
  cases v with
  | obj fields => exact nodup_keys_rangesOfWire _
  | null | bool _ | int _ | real _ | str _ | arr _ => exact List.nodup_nil

/-- On a path that is read, each step lists a variable at most once. -/
theorem listsOnce_of_ofWire {position : Int} {v : Wire.Value} {path : PathTrace}
    (h : PathTrace.ofWire position v = .ok path) : path.ListsOnce := by
  cases v with
  | obj fields =>
    obtain rfl := Except.ok.inj h
    intro step hstep
    obtain ⟨item, -, rfl⟩ := List.mem_map.mp hstep
    exact nodup_keys_ofWire item
  | null | bool _ | int _ | real _ | str _ | arr _ => cases h

/-! ### One more step -/

/-- Before the first step nothing was mentioned. -/
theorem not_isLatest_zero (steps : List Step) (name : String) (found : Tracked) :
    ¬ IsLatest steps 0 name found :=
  fun h => Nat.not_lt_zero _ h.within

/-- Among one more step the latest mention is there, or the step does not mention the variable. -/
theorem isLatest_succ_iff (steps : List Step) (k : Nat) (name : String) (found : Tracked) :
    IsLatest steps (k + 1) name found ↔
      (found.lastStep = k ∧ Mentions steps k name found.range) ∨
        (∀ range, ¬ Mentions steps k name range) ∧ IsLatest steps k name found := by
  constructor
  · rintro ⟨hwithin, hmentioned, hlatest⟩
    rcases Nat.lt_succ_iff_lt_or_eq.mp hwithin with hlt | heq
    · -- A mention at the last step would be a later one.
      refine .inr ⟨fun range hrange => ?_, hlt, hmentioned, fun j hj => hlatest j (by omega)⟩
      have hle := hlatest k (Nat.lt_succ_self k) range hrange
      omega
    · exact .inl ⟨heq, heq ▸ hmentioned⟩
  · rintro (⟨rfl, hmentioned⟩ | ⟨hnone, hwithin, hmentioned, hlatest⟩)
    · exact ⟨Nat.lt_succ_self _, hmentioned, fun j hj _ _ => Nat.lt_succ_iff.mp hj⟩
    · refine ⟨by omega, hmentioned, fun j hj range hrange => ?_⟩
      rcases Nat.lt_succ_iff_lt_or_eq.mp hj with hlt | rfl
      · exact hlatest j hlt range hrange
      · exact absurd hrange (hnone range)

/-- A variable that is mentioned has a latest mention. -/
theorem exists_isLatest {steps : List Step} {count k : Nat} (hk : k < count) {name : String}
    {range : ValueRange} (hrange : Mentions steps k name range) : ∃ found, IsLatest steps count name found := by
  induction count with
  | zero => exact absurd hk (Nat.not_lt_zero k)
  | succ count ih =>
    simp only [isLatest_succ_iff]
    by_cases hlast : ∃ range, Mentions steps count name range
    · obtain ⟨range, hrange⟩ := hlast
      exact ⟨⟨range, count⟩, .inl ⟨rfl, hrange⟩⟩
    · have hne : k ≠ count := by
        rintro rfl
        exact hlast ⟨range, hrange⟩
      obtain ⟨found, hfound⟩ := ih (by omega)
      exact ⟨found, .inr ⟨not_exists.mp hlast, hfound⟩⟩

namespace Tracked

/-- Steps are absorbed one after the other. -/
theorem absorbFrom_append (tracked : Entries String Tracked) (k : Nat) (steps more : List Step) :
    absorbFrom tracked k (steps ++ more) =
      absorbFrom (absorbFrom tracked k steps) (k + steps.length) more := by
  induction steps generalizing tracked k with
  | nil => rfl
  | cons step rest ih =>
    rw [List.cons_append, absorbFrom, absorbFrom, ih, List.length_cons, Nat.add_assoc, Nat.add_comm 1]

/-- The domains after one more step are those before it with the step absorbed. -/
theorem after_succ {steps : List Step} {k : Nat} {step : Step} (h : steps[k]? = some step) :
    after steps (k + 1) = absorb (after steps k) step k := by
  obtain ⟨hk, -⟩ := List.getElem?_eq_some_iff.mp h
  have hlength : (steps.take k).length = k := List.length_take_of_le (Nat.le_of_lt hk)
  rw [after, List.take_add_one, h, absorbFrom_append, hlength, Nat.zero_add]
  rfl

/-- After the last step the domains stay as they are. -/
theorem after_of_length_le {steps : List Step} {count : Nat} (h : steps.length ≤ count) :
    after steps count = after steps steps.length := by
  rw [after, after, List.take_of_length_le h, List.take_length]

/-- Steps beyond the last count as the last. -/
theorem after_min_pred {steps : List Step} (h : steps ≠ []) (k : Nat) :
    after steps (min k (steps.length - 1) + 1) = after steps (k + 1) := by
  have hpos : 0 < steps.length := List.length_pos_of_ne_nil h
  by_cases hk : k < steps.length
  · rw [Nat.min_eq_left (by omega)]
  · have hlength : steps.length ≤ k + 1 := by omega
    rw [Nat.min_eq_right (by omega), Nat.sub_add_cancel hpos, after_of_length_le hlength]

/-- Before a step stand the domains after all earlier steps. -/
theorem upTo_pred (steps : List Step) (k : Nat) : upTo steps ((k : Int) - 1) = after steps k := by
  rw [upTo, Int.sub_add_cancel, Int.toNat_natCast]

/-- The steps up to a position include the one at the position. -/
theorem upTo_natCast (steps : List Step) (k : Nat) : upTo steps k = after steps (k + 1) := by
  rw [upTo, ← Int.natCast_succ, Int.toNat_natCast]

/-- Each variable is tracked once. -/
theorem nodup_keys_absorbFrom {tracked : Entries String Tracked} (h : tracked.keys.Nodup) (k : Nat)
    (steps : List Step) : (absorbFrom tracked k steps).keys.Nodup := by
  induction steps generalizing tracked k with
  | nil => exact h
  | cons step rest ih =>
    exact ih (Entries.nodup_keys_foldl (fun h mention => Entries.nodup_keys_put h _ _) h step.ranges) _

/-- No variable is held twice. -/
theorem nodup_keys_after (steps : List Step) (count : Nat) : (after steps count).keys.Nodup := by
  have hnone : Entries.keys ([] : Entries String Tracked) = [] := rfl
  exact nodup_keys_absorbFrom (hnone ▸ List.nodup_nil) 0 _

/-- What a step mentions is held with the step, and the rest as before. -/
theorem find?_absorb (tracked : Entries String Tracked) {step : Step}
    (h : (Entries.keys step.ranges).Nodup) (k : Nat) (name : String) :
    (absorb tracked step k).find? name =
      ((Entries.find? step.ranges name).map fun range => ⟨range, k⟩).or (tracked.find? name) := by
  have hupdate := Entries.find?_foldl_update
    (fun (mention : String × ValueRange) (_ : Tracked) => (⟨mention.2, k⟩ : Tracked)) default h tracked name
  exact hupdate

end Tracked

/-! ### What the fold holds -/

section ListsOnce

variable {path : PathTrace} (honce : path.ListsOnce)
include honce

/-- The range that a step mentions is found. -/
theorem mentionAt?_eq_some_iff (k : Nat) (name : String) (range : ValueRange) :
    mentionAt? path.steps k name = some range ↔ Mentions path.steps k name range := by
  rw [mentionAt?, Option.bind_eq_some_iff, Mentions]
  refine exists_congr fun step => and_congr_right fun hstep => ?_
  exact Entries.find?_eq_some_iff (honce step (List.mem_of_getElem? hstep)) name range

namespace Tracked

/-- **Step lemma.** What a step mentions is held from then on, and the rest as before. -/
theorem find?_after_succ (k : Nat) (name : String) :
    (after path.steps (k + 1)).find? name =
      ((mentionAt? path.steps k name).map fun range => ⟨range, k⟩).or ((after path.steps k).find? name) := by
  cases hstep : path.steps[k]? with
  | none =>
    -- The path has ended.
    have hlength : path.steps.length ≤ k := List.getElem?_eq_none_iff.mp hstep
    rw [after_of_length_le hlength, after_of_length_le (Nat.le_succ_of_le hlength), mentionAt?, hstep]
    rfl
  | some step =>
    rw [after_succ hstep, find?_absorb _ (honce step (List.mem_of_getElem? hstep)), mentionAt?, hstep,
      Option.bind_some]

/-- The fold holds of each variable its latest mention. -/
theorem find?_after_eq_some_iff (count : Nat) (name : String) (found : Tracked) :
    (after path.steps count).find? name = some found ↔ IsLatest path.steps count name found := by
  -- Both sides take a mention at the last step before anything earlier.
  induction count with
  | zero => exact iff_of_false (by simp [after, absorbFrom]) (not_isLatest_zero _ _ _)
  | succ k ih =>
    rw [isLatest_succ_iff, ← ih, find?_after_succ honce]
    simp only [← mentionAt?_eq_some_iff honce]
    cases mentionAt? path.steps k name with
    | none => simp
    | some range =>
      obtain ⟨foundRange, lastStep⟩ := found
      simp [eq_comm, and_comm]

/-- The fold holds exactly the variables that some step mentions. -/
theorem has_after_iff (count : Nat) (name : String) :
    (after path.steps count).has name = true ↔ ∃ k < count, ∃ range, Mentions path.steps k name range := by
  rw [Entries.has, Option.isSome_iff_exists]
  simp only [find?_after_eq_some_iff honce]
  constructor
  · rintro ⟨found, hwithin, hmentioned, -⟩
    exact ⟨found.lastStep, hwithin, found.range, hmentioned⟩
  · rintro ⟨k, hk, range, hrange⟩
    exact exists_isLatest hk hrange

end Tracked

end ListsOnce

/-! ### What the tracker answers -/

/-- The statement at a position that is not negative. -/
theorem PathTrace.statementAt?_natCast (path : PathTrace) (k : Nat) :
    path.statementAt? k = path.steps[k]?.bind Step.statement? := by
  rw [statementAt?, if_neg (by omega), Int.toNat_natCast]

namespace Tracker

variable {t : Tracker}

/-- A tracker with data has steps. -/
theorem steps_ne_nil_of_hasData (h : t.hasData = true) : t.path.steps ≠ [] := by
  intro hnil
  simp [hasData, PathTrace.hasDomains, hnil] at h

/-- Up to a step, or up to the last one, the tracker answers with the fold. -/
theorem at?_natCast (h : t.hasData = true) (k : Nat) :
    t.at? k = some (Tracked.after t.path.steps (min k (t.path.steps.length - 1) + 1)) := by
  have hpos : 0 < t.path.steps.length := List.length_pos_of_ne_nil (steps_ne_nil_of_hasData h)
  have hmin : (min (k : Int) (t.path.steps.length - 1)) = (min k (t.path.steps.length - 1) : Nat) := by omega
  have hempty : t.path.steps.isEmpty = false := by simpa using steps_ne_nil_of_hasData h
  rw [at?, if_pos (by simp [h, hempty]), hmin, Tracked.upTo_natCast]

/-- At a position, the tracker holds what the steps up to there leave, if there are data at all. -/
theorem at?_eq_some_iff (k : Nat) (tracked : Entries String Tracked) :
    t.at? k = some tracked ↔ t.hasData = true ∧ Tracked.after t.path.steps (k + 1) = tracked := by
  by_cases h : t.hasData = true
  · rw [at?_natCast h, Tracked.after_min_pred (steps_ne_nil_of_hasData h), Option.some.injEq]
    exact (and_iff_right h).symm
  · refine iff_of_false ?_ fun hand => h hand.1
    simp [at?, h]

/-- A step that is only described, or is beyond the last, reports nothing. -/
theorem stepDiffs_eq_nil {k : Nat} (h : t.path.steps[k]?.bind Step.statement? = none) (withKind : Bool) :
    t.stepDiffs k withKind = [] := by
  rw [stepDiffs, PathTrace.statementAt?_natCast, h]

/-- A step that is analysed reports the changes that its statement makes to the domains before it. -/
theorem stepDiffs_eq_diffs {k : Nat} {statement : Statement}
    (h : t.path.steps[k]? = some (.analysed statement)) (withKind : Bool) :
    t.stepDiffs k withKind =
      statement.diffs (Tracked.after t.path.steps k) (if withKind then some statement.kind else none) t.digits
        k := by
  have hstatement : t.path.statementAt? k = some statement := by
    rw [PathTrace.statementAt?_natCast, h]
    rfl
  simp only [stepDiffs, hstatement, Tracked.upTo_pred, Int.toNat_natCast]

/-- Where a step mentions a variable, the path carries domains. -/
theorem hasData_of_mentions {k : Nat} {name : String} {range : ValueRange}
    (h : Mentions t.path.steps k name range) : t.hasData = true := by
  obtain ⟨step, hstep, hmem⟩ := h
  refine List.any_eq_true.mpr ⟨step, List.mem_of_getElem? hstep, ?_⟩
  simpa using List.ne_nil_of_mem hmem

end Tracker

end RangeAudit
