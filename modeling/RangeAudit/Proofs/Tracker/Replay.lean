import Mathlib.Data.List.Chain
import RangeAudit.Proofs.Domain.SameDomain
import RangeAudit.Proofs.Domain.ShortText
import RangeAudit.Proofs.Tracker.WatchPanel

namespace RangeAudit

/-!
# Replaying the changes of a variable

A step reports a change of a variable if it mentions another domain than is held; what is shown of the change are
the texts for display.  Read one after the other, the changes of a variable leave no gap, and they end with what
the panel shows.

* `VarDiff.between?`, `Tracker.filter_stepDiffs` — what a step reports of one variable;
* `Tracker.history` — what the first steps report of it;
* `VarDiff.LeadTo` — changes without a gap, from nothing to a text;
* `Tracker.replays_history` — the induction along the path: the changes so far lead to what is held;
* `Tracker.history_leadTo_watch` — hence they lead to what the panel shows.
-/

namespace VarDiff

/-- The change of a variable from what is held of it to what is mentioned, if the two differ. -/
def between? (previous : Option ValueRange) (now : ValueRange) (name : String) (kind : Option StepKind)
    (digits : Int) (k : Nat) : Option VarDiff :=
  (ValueRange.classify previous now kind).map fun verdict =>
    { name := name
      old := previous.map (ValueRange.short digits)
      new := now.short digits
      kind := verdict
      step := k }

/-- A change is that of the variable. -/
theorem name_of_between? {previous : Option ValueRange} {now : ValueRange} {name : String}
    {kind : Option StepKind} {digits : Int} {k : Nat} {diff : VarDiff}
    (h : between? previous now name kind digits k = some diff) : diff.name = name := by
  obtain ⟨verdict, -, rfl⟩ := Option.map_eq_some_iff.mp h
  rfl

/-- Changes of a variable of which the first is from nothing, each further one is from where the one
    before it ended, and the last one ends with a text. -/
structure LeadTo (diffs : List VarDiff) (domain : String) : Prop where
  ne_nil : diffs ≠ []
  first : (diffs.head ne_nil).old = none
  linked : diffs.IsChain fun before after => after.old = some before.new
  last : (diffs.getLast ne_nil).new = domain

/-- Changes that lead to what is held of a variable, and none if nothing is held. -/
def Replays (digits : Int) (diffs : List VarDiff) : Option ValueRange → Prop
  | none => diffs = []
  | some range => LeadTo diffs (range.short digits)

/-- A single change from nothing. -/
theorem leadTo_singleton {diff : VarDiff} (h : diff.old = none) : LeadTo [diff] diff.new where
  ne_nil := List.cons_ne_nil _ _
  first := h
  linked := .singleton diff
  last := rfl

/-- One more change, from where the last one ended. -/
theorem LeadTo.concat {diffs : List VarDiff} {domain : String} (h : LeadTo diffs domain) {diff : VarDiff}
    (hold : diff.old = some domain) : LeadTo (diffs ++ [diff]) diff.new where
  ne_nil := by simp
  first := by rw [List.head_append_of_ne_nil h.ne_nil, h.first]
  linked := by
    refine List.isChain_append.mpr ⟨h.linked, .singleton diff, fun before hbefore after hafter => ?_⟩
    rw [List.getLast?_eq_some_getLast h.ne_nil] at hbefore
    obtain rfl := Option.some.inj hbefore
    obtain rfl := Option.some.inj hafter
    rw [hold, h.last]
  last := by rw [List.getLast_append_singleton]

end VarDiff

namespace Tracker

/-- What is held of a variable before the step at a position. -/
def heldBefore? (t : Tracker) (k : Nat) (name : String) : Option ValueRange :=
  ((Tracked.after t.path.steps k).find? name).map Tracked.range

/-- The change of a variable that the step at a position reports, judged by width only. -/
def diffAt? (t : Tracker) (k : Nat) (name : String) : Option VarDiff :=
  (mentionAt? t.path.steps k name).bind fun now =>
    VarDiff.between? (t.heldBefore? k name) now name none t.digits k

/-- The changes of a variable that the first steps report. -/
def history (t : Tracker) (name : String) (count : Nat) : List VarDiff :=
  (t.allStepDiffs.take count).flatten.filter fun diff => diff.name = name

/-- The history is made step by step, and ends with the path. -/
theorem history_eq_flatMap (t : Tracker) (name : String) (count : Nat) :
    t.history name count =
      (List.range (min count t.path.steps.length)).flatMap fun (k : Nat) =>
        (t.stepDiffs k false).filter fun diff => diff.name = name := by
  rw [history, allStepDiffs, ← List.map_take, List.take_range, ← List.flatMap_def, List.filter_flatMap]

end Tracker

/-! ### What a step reports of one variable -/

section ListsOnce

variable {t : Tracker} (honce : t.path.ListsOnce)
include honce

namespace Tracker

/-- Of the changes that a step reports, at most one is of the variable. -/
theorem filter_stepDiffs (k : Nat) (name : String) :
    ((t.stepDiffs k false).filter fun diff => diff.name = name) = (t.diffAt? k name).toList := by
  match hstep : t.path.steps[k]? with
  | none | some (.described _) =>
    -- Nothing is mentioned, and nothing is reported.
    rw [stepDiffs_eq_nil (by rw [hstep]; rfl), diffAt?, mentionAt?, hstep]
    rfl
  | some (.analysed statement) =>
    have hnodup : (Entries.keys statement.ranges).Nodup := honce _ (List.mem_of_getElem? hstep)
    have hdiffs : t.stepDiffs k false = statement.ranges.filterMap fun mention =>
        VarDiff.between? (t.heldBefore? k mention.1) mention.2 mention.1 none t.digits k := by
      rw [stepDiffs_eq_diffs hstep]
      rfl
    rw [hdiffs, Entries.filter_filterMap hnodup fun mention diff => VarDiff.name_of_between?, diffAt?, mentionAt?,
      hstep]
    rfl

/-- One more step adds its change of the variable, if it reports one. -/
theorem history_succ (k : Nat) (name : String) :
    t.history name (k + 1) = t.history name k ++ (t.diffAt? k name).toList := by
  rw [history_eq_flatMap, history_eq_flatMap]
  by_cases hk : k < t.path.steps.length
  · rw [Nat.min_eq_left hk, Nat.min_eq_left (Nat.le_of_lt hk), List.range_succ, List.flatMap_append,
      List.flatMap_singleton, filter_stepDiffs honce]
  · -- The path has ended.
    have hlength := Nat.le_of_not_lt hk
    have hnone : t.diffAt? k name = none := by
      rw [diffAt?, mentionAt?, List.getElem?_eq_none hlength]
      rfl
    rw [Nat.min_eq_right hlength, Nat.min_eq_right (Nat.le_succ_of_le hlength), hnone, Option.toList_none,
      List.append_nil]

/-- A step that mentions a variable replaces what was held of it. -/
theorem heldBefore?_succ (k : Nat) (name : String) :
    t.heldBefore? (k + 1) name = (mentionAt? t.path.steps k name).or (t.heldBefore? k name) := by
  rw [heldBefore?, Tracked.find?_after_succ honce]
  cases mentionAt? t.path.steps k name <;> rfl

/-! ### Along the path -/

/-- **Invariant along the path.** The changes so far lead to what is held, and there are none if nothing is held. -/
theorem replays_history (hdigits : 1 ≤ t.digits) (count : Nat) (name : String) :
    VarDiff.Replays t.digits (t.history name count) (t.heldBefore? count name) := by
  induction count with
  | zero => exact rfl
  | succ k ih =>
    rw [history_succ honce, heldBefore?_succ honce, diffAt?]
    cases mentionAt? t.path.steps k name with
    | none => simpa using ih
    | some now =>
      show VarDiff.LeadTo
        (t.history name k ++ (VarDiff.between? (t.heldBefore? k name) now name none t.digits k).toList)
        (now.short t.digits)
      cases hheld : t.heldBefore? k name with
      | none =>
        -- A first mention is always a change, and it is from nothing.
        rw [hheld] at ih
        have hempty : t.history name k = [] := ih
        rw [hempty]
        exact VarDiff.leadTo_singleton rfl
      | some previous =>
        rw [hheld] at ih
        have hshown : VarDiff.LeadTo (t.history name k) (previous.short t.digits) := ih
        cases hverdict : ValueRange.classify (some previous) now none with
        | none =>
          -- What is held changes, but neither what is compared nor what is shown of it.
          have hexact := (ValueRange.classify_eq_none_iff previous now none).mp hverdict
          rw [VarDiff.between?, hverdict, ← ValueRange.short_eq_of_exact_eq hdigits hexact]
          simpa using hshown
        | some verdict =>
          -- The change starts from what is held, which is where the last one ended.
          rw [VarDiff.between?, hverdict]
          exact hshown.concat rfl

end Tracker

end ListsOnce

/-- **The changes of a variable replay to the panel.** Let numbers be shown with one digit at least.  The changes
    of a variable with a row in the panel, among those of the steps up to the one that is shown, are not none: the
    first is from nothing, each further one is from where the one before it ended, and the last one ends with the
    domain in the row.  Every variable that is held has a row, and a variable without a row has no changes. -/
theorem Tracker.history_leadTo_watch (t : Tracker) (hdigits : 1 ≤ t.digits) (honce : t.path.ListsOnce) (k : Nat) :
    (∀ row ∈ t.watch k, VarDiff.LeadTo (t.history row.name (k + 1)) row.domain) ∧
    (∀ tracked, t.at? k = some tracked → ∀ name, tracked.has name = true →
      ∃ row ∈ t.watch k, row.name = name) ∧
    ∀ name, (∀ row ∈ t.watch k, row.name ≠ name) → t.history name (k + 1) = [] := by
  have hkeys := Tracked.nodup_keys_after t.path.steps (k + 1)
  -- The replay is proved of the fold at every step; what is left is that a row shows what the fold holds.
  have hreplays := fun name => replays_history honce hdigits (k + 1) name
  refine ⟨fun row hrow => ?_, fun tracked hat name hhas => ?_, fun name hnone => ?_⟩
  · obtain ⟨⟨name, found⟩, hentry, rfl⟩ := (mem_watch_iff honce k row).mp hrow
    have hheld : t.heldBefore? (k + 1) name = some found.range := by
      rw [heldBefore?, Entries.find?_eq_some_of_mem hkeys hentry]
      rfl
    have hname := hreplays name
    rw [hheld] at hname
    exact hname
  · obtain ⟨-, rfl⟩ := (at?_eq_some_iff k tracked).mp hat
    obtain ⟨found, hfound⟩ := Option.isSome_iff_exists.mp hhas
    exact ⟨t.row (name, found), (mem_watch_iff honce k _).mpr ⟨_, Entries.mem_of_find? hfound, rfl⟩, rfl⟩
  · have hheld : t.heldBefore? (k + 1) name = none := by
      rw [heldBefore?, Option.map_eq_none_iff, Option.eq_none_iff_forall_ne_some]
      intro found hfound
      exact hnone _ ((mem_watch_iff honce k _).mpr ⟨_, Entries.mem_of_find? hfound, rfl⟩) rfl
    have hname := hreplays name
    rw [hheld] at hname
    exact hname

/-- The fee is watched, with the range of its last mention. -/
theorem mem_watch_feeTracker :
    { name := "fee", domain := "[0..5]", lastStep := 2, unrestricted := false } ∈ feeTracker.watch 3 := by
  have honce : feePath.ListsOnce := by decide
  refine (Tracker.mem_watch_iff honce 3 _).mpr ⟨("fee", ⟨rangeTo 5, 2⟩), ?_, ?_⟩ <;> decide +kernel

/-- The history of the fee leads to what is watched; the gas was never mentioned, and has none. -/
theorem Tracker.history_leadTo_watch_of_feeTracker :
    1 ≤ feeTracker.digits ∧ feePath.ListsOnce ∧
      VarDiff.LeadTo (feeTracker.history "fee" 4) "[0..5]" ∧
      (∃ row ∈ feeTracker.watch 3, row.name = "amount") ∧
      feeTracker.history "gas" 4 = [] := by
  have hdigits : 1 ≤ feeTracker.digits := by decide
  have honce : feePath.ListsOnce := by decide
  obtain ⟨hlead, hrow, hnone⟩ := history_leadTo_watch feeTracker hdigits honce 3
  have hat : feeTracker.at? (3 : Nat) = some (Tracked.after feePath.steps 4) :=
    (at?_eq_some_iff 3 _).mpr ⟨by decide, rfl⟩
  refine ⟨hdigits, honce, hlead _ mem_watch_feeTracker, hrow _ hat "amount" (by decide +kernel),
    hnone "gas" fun row hmem hname => ?_⟩
  obtain ⟨entry, hentry, rfl⟩ := (mem_watch_iff honce 3 row).mp hmem
  have hkey : "gas" ∈ (Tracked.after feePath.steps 4).keys := hname ▸ List.mem_map_of_mem hentry
  exact absurd hkey (by decide +kernel)

end RangeAudit
