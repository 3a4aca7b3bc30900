import RangeAudit.Margin.Lines
import RangeAudit.Proofs.Entries.Grouping
import RangeAudit.Proofs.Tracker.Mentions

namespace RangeAudit

/-!
# One pass along a path, or a fresh fold for every step

The domain changes in the margin are found in one pass that carries the domains along.  The tracker
answers for each step on its own, from the steps before it.  Both say the same.

* `Tracker.notesAt`, `Tracker.notes` — the notes that the tracker's answers make, step by step;
* `notesFrom_eq_foldl` — the loop invariant: from any step on, the pass adds the notes of the steps that
  are left, whether these are described only, on no line, or mention nothing;
* `rangeNotes_eq_refolded` — hence the notes in the margin are the tracker's, grouped by line.
-/

/-! ### The notes that the tracker's answers make -/

/-- The note of a change on a line. -/
def RangeNote.ofDiff (line : Int) (diff : VarDiff) : RangeNote where
  line := line
  name := diff.name
  domain := diff.new
  kind := diff.kind
  previous := diff.old
  step := diff.step

/-- The line of the step at a position, if its node is on one. -/
def PathTrace.lineAt? (path : PathTrace) (index : NodeIndex) (k : Nat) : Option Int :=
  (path.statementAt? k).bind fun statement => index.lineOf? statement.node

namespace Tracker

/-- The changes on a line: those of its steps, each found by a fold of the steps before it. -/
def diffsOn (t : Tracker) (index : NodeIndex) (line : Int) : List VarDiff :=
  (List.range t.path.steps.length).flatMap fun k =>
    if t.path.lineAt? index k = some line then t.stepDiffs k true else []

/-- The notes of the step at a position; none if it is on no line. -/
def notesAt (t : Tracker) (index : NodeIndex) (k : Nat) : List RangeNote :=
  match t.path.lineAt? index k with
  | some line => (t.stepDiffs k true).map (RangeNote.ofDiff line)
  | none => []

/-- The notes of all steps, in order. -/
def notes (t : Tracker) (index : NodeIndex) : List RangeNote :=
  (List.range t.path.steps.length).flatMap (t.notesAt index)

/-- The notes on a line are those of the changes there. -/
theorem filter_notes (t : Tracker) (index : NodeIndex) (line : Int) :
    (t.notes index).filter (fun note => note.line = line) =
      (t.diffsOn index line).map (RangeNote.ofDiff line) := by
  rw [notes, diffsOn, List.filter_flatMap, List.map_flatMap]
  -- Step by step: the notes of a step all carry its line, so the filter keeps all of them or none.
  refine congrArg (fun f => List.flatMap f _) (funext fun k => ?_)
  unfold notesAt
  split
  · rename_i other hline
    by_cases h : other = line
    · subst h
      rw [if_pos hline, List.filter_eq_self]
      intro note hnote
      obtain ⟨diff, -, rfl⟩ := List.mem_map.mp hnote
      simp [RangeNote.ofDiff]
    · rw [if_neg (by rw [hline]; exact fun heq => h (Option.some.inj heq)), List.map_nil,
        List.filter_eq_nil_iff]
      intro note hnote
      obtain ⟨diff, -, rfl⟩ := List.mem_map.mp hnote
      simp [RangeNote.ofDiff, h]
  · rename_i hline
    rw [hline, if_neg (by simp)]
    rfl

end Tracker

/-! ### The pass -/

/-- The notes of a statement on a line are those of its changes. -/
theorem foldl_noteMention (statement : Statement) (line digits : Int) (tracked : Entries String Tracked)
    (k : Nat) (notes : Entries Int (List RangeNote)) :
    statement.ranges.foldl (noteMention line digits tracked statement.kind k) notes =
      ((statement.diffs tracked (some statement.kind) digits k).map (RangeNote.ofDiff line)).foldl
        (Entries.addTo RangeNote.line) notes := by
  obtain ⟨text, kind, node, mentions⟩ := statement
  simp only [Statement.diffs]
  induction mentions generalizing notes with
  | nil => rfl
  | cons mention rest ih =>
    rw [List.foldl_cons, ih]
    -- A mention that changes nothing makes neither a diff nor a note.
    cases hverdict : ValueRange.classify ((tracked.find? mention.1).map Tracked.range) mention.2
        (some kind) with
    | none => simp [noteMention, hverdict]
    | some verdict =>
      simp only [noteMention, hverdict, List.filterMap_cons, Option.map_some, List.map_cons,
        List.foldl_cons]
      rfl

/-- **Step lemma.** With the domains after all earlier steps at hand, the pass adds to the notes what the
    tracker reports for the step. -/
theorem noteStep_eq (t : Tracker) (index : NodeIndex) {k : Nat} {step : Step}
    (h : t.path.steps[k]? = some step) (notes : Entries Int (List RangeNote)) :
    noteStep index t.digits (Tracked.after t.path.steps k) notes k step =
      (t.notesAt index k).foldl (Entries.addTo RangeNote.line) notes := by
  -- Step `k` of the path is the step at hand; a described one has no statement and notes nothing.
  have hstatement : t.path.statementAt? (k : Int) = step.statement? := by
    rw [PathTrace.statementAt?_natCast, h, Option.bind_some]
  cases step with
  | described text => simp [noteStep, Tracker.notesAt, PathTrace.lineAt?, hstatement, Step.statement?]
  | analysed statement =>
    have hline : t.path.lineAt? index k = index.lineOf? statement.node := by
      rw [PathTrace.lineAt?, hstatement]
      rfl
    have hdiffs : t.stepDiffs k true =
        statement.diffs (Tracked.after t.path.steps k) (some statement.kind) t.digits k :=
      Tracker.stepDiffs_eq_diffs h true
    rw [noteStep, Tracker.notesAt, hline]
    cases index.lineOf? statement.node with
    | none => rfl
    | some line =>
      dsimp only
      rw [foldl_noteMention, hdiffs]

/-- **Loop invariant.** From any step on, the pass adds the notes of the steps that are left. -/
theorem notesFrom_eq_foldl (t : Tracker) (index : NodeIndex) {before rest : List Step}
    (h : t.path.steps = before ++ rest) (notes : Entries Int (List RangeNote)) :
    notesFrom index t.digits (Tracked.after t.path.steps before.length) notes before.length rest =
      ((List.range' before.length rest.length).flatMap (t.notesAt index)).foldl
        (Entries.addTo RangeNote.line) notes := by
  induction rest generalizing before notes with
  | nil => rfl
  | cons step rest ih =>
    have hstep : t.path.steps[before.length]? = some step := by
      rw [h, List.getElem?_append_right (Nat.le_refl _), Nat.sub_self]
      rfl
    have hnext : t.path.steps = (before ++ [step]) ++ rest := by simpa using h
    have hlength : (before ++ [step]).length = before.length + 1 := List.length_append
    rw [notesFrom, ← Tracked.after_succ hstep, noteStep_eq t index hstep, List.length_cons,
      List.range'_succ, List.flatMap_cons, List.foldl_append]
    simpa only [hlength] using ih hnext _

/-- **One pass equals refolding.** The domain changes in the margin are exactly those that the tracker
    finds by a fresh fold for each step, with the kind of the step taken into account: on each line those
    of the steps whose node is there, step by step and within a step in the order of its mentions.  The
    lines come in the order of their first changes, and none is without a change. -/
theorem rangeNotes_eq_refolded (path : PathTrace) (index : NodeIndex) (config : Config) :
    let t : Tracker := { path := path, digits := config.shortDigits }
    let shown := rangeNotes (some path) index config
    shown = Entries.grouped RangeNote.line (t.notes index) ∧
      (∀ line, (shown.find? line).getD [] = (t.diffsOn index line).map (RangeNote.ofDiff line)) ∧
      ∀ entry ∈ shown, entry.2 ≠ [] := by
  intro t shown
  have hgrouped : shown = Entries.grouped RangeNote.line (t.notes index) := by
    have hpass := notesFrom_eq_foldl t index (show path.steps = [] ++ path.steps from rfl) []
    rw [← Entries.foldl_addTo, Tracker.notes, List.range_eq_range']
    exact hpass
  refine ⟨hgrouped, fun line => ?_, fun entry hentry => ?_⟩
  · rw [hgrouped, Entries.find?_grouped, Tracker.filter_notes]
  · rw [hgrouped] at hentry
    exact Entries.ne_nil_of_mem_grouped hentry

end RangeAudit
