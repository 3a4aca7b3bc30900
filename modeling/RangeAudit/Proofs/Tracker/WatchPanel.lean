import RangeAudit.Proofs.Text.Order
import RangeAudit.Proofs.Tracker.Mentions

namespace RangeAudit

/-!
# The watch panel

After each step the panel shows a row for every variable that some step up to then mentions: with the domain of
its latest mention and the step of that, the latest first, and by name among those of the same step.

* `PathTrace.NamesTexts`, `WatchRow.Above` — names are texts, and the order of two rows;
* `Tracker.watch_perm`, `Tracker.nodup_names_watch` — a row for each variable that is held;
* `Tracker.pairwise_watch` — no two rows may change places;
* `Tracker.at_eq_latestMentions` — what the tracker and its panel show are the latest mentions.
-/

/-- The variables that the steps mention have texts for names. -/
def PathTrace.NamesTexts (path : PathTrace) : Prop :=
  ∀ step ∈ path.steps, ∀ name ∈ Entries.keys step.ranges, Text.IsText name

/-- A row stands above another one: its last step is later, or it is the same and its name precedes. -/
def WatchRow.Above (a b : WatchRow) : Prop :=
  b.lastStep < a.lastStep ∨ a.lastStep = b.lastStep ∧ Text.precedes a.name b.name = true

namespace Tracker

/-- The row of a variable. -/
def row (t : Tracker) (entry : String × Tracked) : WatchRow where
  name := entry.1
  domain := entry.2.range.short t.digits
  lastStep := entry.2.lastStep
  unrestricted := entry.2.range.isUnrestricted

/-! ### The order of rows -/

/-- Rows are compared by their last steps, the latest first, and then by name. -/
theorem watchOrder_iff (a b : WatchRow) :
    watchOrder a b = true ↔
      b.lastStep < a.lastStep ∨ a.lastStep = b.lastStep ∧ Text.inOrder a.name b.name = true := by
  by_cases h : a.lastStep = b.lastStep <;> simp [watchOrder, h]

theorem watchOrder_trans (a b c : WatchRow) (hab : watchOrder a b = true) (hbc : watchOrder b c = true) :
    watchOrder a c = true := by
  rw [watchOrder_iff] at hab hbc ⊢
  rcases hab with hab | ⟨hab, hname⟩ <;> rcases hbc with hbc | ⟨hbc, hname'⟩
  · exact .inl (Nat.lt_trans hbc hab)
  · exact .inl (hbc ▸ hab)
  · exact .inl (hab ▸ hbc)
  · exact .inr ⟨hab.trans hbc, Text.inOrder_trans hname hname'⟩

theorem watchOrder_total (a b : WatchRow) : (watchOrder a b || watchOrder b a) = true := by
  rw [Bool.or_eq_true, watchOrder_iff, watchOrder_iff]
  rcases Nat.lt_trichotomy a.lastStep b.lastStep with h | h | h
  · exact .inr (.inl h)
  · exact (Text.inOrder_total a.name b.name).imp (fun hname => .inr ⟨h, hname⟩)
      fun hname => .inr ⟨h.symm, hname⟩
  · exact .inl (.inl h)

/-! ### The rows -/

variable {t : Tracker} {k : Int} {tracked : Entries String Tracked}

/-- The panel has the rows of the variables that are held. -/
theorem watch_perm (h : t.at? k = some tracked) : (t.watch k).Perm (tracked.map t.row) := by
  have hrows : t.watch k = (tracked.map t.row).mergeSort watchOrder := by
    rw [watch, h]
    rfl
  rw [hrows]
  exact List.mergeSort_perm _ _

/-- The rows are those of the variables that are held, also on a path without domains. -/
theorem mem_watch_iff (honce : t.path.ListsOnce) (k : Nat) (r : WatchRow) :
    r ∈ t.watch k ↔ ∃ entry ∈ Tracked.after t.path.steps (k + 1), t.row entry = r := by
  by_cases hdata : t.hasData = true
  · rw [(watch_perm ((at?_eq_some_iff k _).mpr ⟨hdata, rfl⟩)).mem_iff, List.mem_map]
  · have hat : t.at? k = none := by simp [at?, hdata]
    -- Without domains there are no rows, and nothing is held that could have been mentioned.
    refine iff_of_false (by simp [watch, hat]) ?_
    rintro ⟨entry, hentry, -⟩
    have hhas : (Tracked.after t.path.steps (k + 1)).has entry.1 = true :=
      (Entries.isSome_find?_iff _ _).mpr (List.mem_map_of_mem hentry)
    obtain ⟨j, -, range, hrange⟩ := (Tracked.has_after_iff honce _ _).mp hhas
    exact hdata (hasData_of_mentions hrange)

/-- No variable has two rows. -/
theorem nodup_names_watch (h : t.at? k = some tracked) (hkeys : tracked.keys.Nodup) :
    ((t.watch k).map WatchRow.name).Nodup := by
  have hnames : ((tracked.map t.row).map WatchRow.name) = tracked.keys := by
    rw [List.map_map]
    rfl
  rw [((watch_perm h).map WatchRow.name).nodup_iff, hnames]
  exact hkeys

/-- Among variables with texts for names no two rows may change places. -/
theorem pairwise_watch (h : t.at? k = some tracked) (hkeys : tracked.keys.Nodup)
    (htexts : ∀ name ∈ tracked.keys, Text.IsText name) : (t.watch k).Pairwise WatchRow.Above := by
  have hsorted : (t.watch k).Pairwise fun a b => watchOrder a b = true :=
    List.pairwise_mergeSort watchOrder_trans watchOrder_total _
  have hnames : (t.watch k).Pairwise fun a b => a.name ≠ b.name :=
    List.pairwise_map.mp (nodup_names_watch h hkeys)
  have htext : ∀ row ∈ t.watch k, Text.IsText row.name := by
    intro row hrow
    obtain ⟨entry, hentry, rfl⟩ := List.mem_map.mp ((watch_perm h).mem_iff.mp hrow)
    exact htexts _ (List.mem_map_of_mem hentry)
  -- The order leaves open how equal names stand, but no two rows have the same.
  refine (hsorted.and hnames).imp_of_mem fun {a b} ha hb hab => ?_
  obtain ⟨horder, hne⟩ := hab
  rcases (watchOrder_iff a b).mp horder with hlater | ⟨hsame, hname⟩
  · exact .inl hlater
  · exact .inr ⟨hsame, Text.precedes_of_inOrder (htext a ha) (htext b hb) hne hname⟩

end Tracker

/-- The variables that the fold holds are mentioned on the path. -/
theorem PathTrace.NamesTexts.after {path : PathTrace} (h : path.NamesTexts) (honce : path.ListsOnce)
    (count : Nat) : ∀ name ∈ (Tracked.after path.steps count).keys, Text.IsText name := by
  intro name hname
  have hhas : (Tracked.after path.steps count).has name = true := (Entries.isSome_find?_iff _ _).mpr hname
  obtain ⟨k, -, range, step, hstep, hmem⟩ := (Tracked.has_after_iff honce count name).mp hhas
  exact h step (List.mem_of_getElem? hstep) name (List.mem_map_of_mem hmem)

/-- **Domains along a path are the latest mentions.** On a path with domains, the tracker holds at a step, or at the
    last one if the path ends before, exactly the variables that some step up to there mentions, each with the
    domain and the position of its latest mention; and the next step's domains are those of this one with the
    next step absorbed.  The panel has one row for each variable that is held, ordered strictly by the last step,
    the latest first, and then by name. -/
theorem Tracker.at_eq_latestMentions (t : Tracker) (hdata : t.hasData = true) (honce : t.path.ListsOnce)
    (htexts : t.path.NamesTexts) (k : Nat) :
    (∃ tracked, t.at? k = some tracked ∧
      (∀ name, tracked.has name = true ↔
        ∃ j ≤ min k (t.path.steps.length - 1), ∃ range, Mentions t.path.steps j name range) ∧
      (∀ name found, tracked.find? name = some found ↔
        IsLatest t.path.steps (min k (t.path.steps.length - 1) + 1) name found) ∧
      (t.watch k).Perm (tracked.map t.row) ∧
      ((t.watch k).map WatchRow.name).Nodup ∧
      (t.watch k).Pairwise WatchRow.Above) ∧
    ∀ step, t.path.steps[k + 1]? = some step →
      Tracked.upTo t.path.steps (k + 1) = Tracked.absorb (Tracked.upTo t.path.steps k) step (k + 1) := by
  -- The state at `k` is the fold of the steps up to `k` or the last one.
  have hat := Tracker.at?_natCast hdata k
  have hkeys := Tracked.nodup_keys_after t.path.steps (min k (t.path.steps.length - 1) + 1)
  refine ⟨⟨_, hat, fun name => ?_, fun name found => ?_, watch_perm hat, nodup_names_watch hat hkeys,
    pairwise_watch hat hkeys (htexts.after honce _)⟩, fun step hstep => ?_⟩
  · simp only [Tracked.has_after_iff honce, Nat.lt_succ_iff]
  · exact Tracked.find?_after_eq_some_iff honce _ name found
  · have hnext : Tracked.upTo t.path.steps ((k : Int) + 1) = Tracked.after t.path.steps (k + 1 + 1) :=
      Tracked.upTo_natCast t.path.steps (k + 1)
    rw [hnext, Tracked.upTo_natCast, Tracked.after_succ hstep]

/-- A number between zero and an upper end. -/
def rangeTo (high : Int) : ValueRange :=
  { intervals := [⟨0, high⟩] }

/-- A path on which the fee is narrowed, and the amount is mentioned once more as it was. -/
def feePath : PathTrace where
  index := 0
  exit := .returns
  feasible := true
  steps :=
    [.analysed { text := "fee = amount / 10", kind := .assign,
                 ranges := [("fee", rangeTo 9), ("amount", rangeTo 99)] },
      .described "emit Paid",
      .analysed { text := "require(fee < 6)", kind := .assert, ranges := [("fee", rangeTo 5)] },
      .analysed { text := "amount = amount", kind := .assign, ranges := [("amount", rangeTo 99)] }]

/-- The tracker of this path. -/
def feeTracker : Tracker where
  path := feePath

theorem namesTexts_feePath : feePath.NamesTexts := by
  unfold PathTrace.NamesTexts
  decide +kernel

/-- The fee was mentioned last at step 2, with this range. -/
theorem Tracker.at_eq_latestMentions_of_feeTracker :
    feeTracker.hasData = true ∧ feePath.ListsOnce ∧ feePath.NamesTexts ∧
      IsLatest feePath.steps 4 "fee" ⟨rangeTo 5, 2⟩ ∧
      (feeTracker.watch 9).Pairwise WatchRow.Above ∧
      Tracked.upTo feePath.steps 3 =
        Tracked.absorb (Tracked.upTo feePath.steps 2) (feePath.steps.getD 3 default) 3 := by
  have hdata : feeTracker.hasData = true := by decide
  have honce : feePath.ListsOnce := by decide
  obtain ⟨⟨tracked, hat, -, hlatest, -, -, hordered⟩, -⟩ :=
    at_eq_latestMentions feeTracker hdata honce namesTexts_feePath 9
  have hfee : ((feeTracker.at? (9 : Nat)).getD []).find? "fee" = some ⟨rangeTo 5, 2⟩ := by decide +kernel
  obtain ⟨-, hnext⟩ := at_eq_latestMentions feeTracker hdata honce namesTexts_feePath 2
  rw [hat] at hfee
  exact ⟨hdata, honce, namesTexts_feePath, (hlatest _ _).mp hfee, hordered, hnext _ rfl⟩

end RangeAudit
