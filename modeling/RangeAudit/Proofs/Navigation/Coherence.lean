import Mathlib.Data.List.Induction
import RangeAudit.Navigation.State

namespace RangeAudit

/-!
# What a navigator can have selected

A navigator is given events, objects that announce events, and resets, in any order.  Whatever it is
given, the parts of its selection fit together, and the selected path can be traced back to the event
that selected it.

* `NavigationInput`, `Navigator.run` — what a navigator is given, and the navigator afterwards;
* `Selection.Coherent` — the parts of a selection fit together; `Selection.Coherent.apply` is the step
  lemma, `Navigator.coherent_run` the run lemma;
* `Navigator.PathSetBy` — the last path that was asked for with success, with nothing since then that
  gives it up; `Navigator.pathIndex_run_eq_some_iff` says that exactly this path is selected;
* `Navigator.selection_run_coherent` — both together.

The conjuncts of `Selection.Coherent` need each other: that the mode for paths has a path to show rests on
every event that drops the path also leaving that mode.
-/

/-! ### What a navigator is given -/

/-- What a navigator is given.  An event comes with what is known at that time of the functions that have
    a summary. -/
inductive NavigationInput where
  | reset
  | event (hasSummary : Int → Bool) (event : NavigationEvent)
  | announced (hasSummary : Int → Bool) (v : Wire.Value)

namespace NavigationEvent

/-- Does an event give up the selected path? -/
def leavesPath : NavigationEvent → Bool
  | selectContract _ => true
  | selectFunction _ _ => true
  | navigateToFunction _ _ => true
  | backToOverview => true
  | _ => false

/-- The path that an event asks for. -/
def path? : NavigationEvent → Option Int
  | selectPath k => some k
  | _ => none

end NavigationEvent

namespace NavigationInput

/-- The event of an input.  A reset has none, nor has a value that announces no event. -/
def event? : NavigationInput → Option NavigationEvent
  | reset => none
  | event _ e => some e
  | announced _ v => (NavigationEvent.ofWire v).toOption

/-- Does an input give up the selected path? -/
def leavesPath : NavigationInput → Bool
  | reset => true
  | input => input.event?.any NavigationEvent.leavesPath

/-- The path that an input asks for. -/
def path? (input : NavigationInput) : Option Int :=
  input.event?.bind NavigationEvent.path?

/-- An input that asks for a path does not give up the path. -/
theorem leavesPath_of_path? {input : NavigationInput} {k : Int} (h : input.path? = some k) :
    input.leavesPath = false := by
  obtain ⟨event, hevent, hpath⟩ := Option.bind_eq_some_iff.mp h
  have hleaves : event.leavesPath = false := by
    cases event <;> first | rfl | cases hpath
  cases input with
  | reset => cases hevent
  | event => simp [leavesPath, hevent, hleaves]
  | announced => simp [leavesPath, hevent, hleaves]

end NavigationInput

/-! ### Coherent selections -/

namespace Selection

/-- The parts of a selection fit together. -/
structure Coherent (s : Selection) : Prop where
  path_iff_step : s.pathIndex = none ↔ s.stepIndex = none
  function_of_path : s.pathIndex.isSome → s.functionId.isSome
  path_nonneg : ∀ k, s.pathIndex = some k → 0 ≤ k
  step_nonneg : ∀ k, s.stepIndex = some k → 0 ≤ k
  path_of_mode : s.mode = .path → s.pathIndex.isSome

variable {s : Selection}

/-- A selection without a path is coherent if it has no step either, and does not show a path. -/
theorem coherent_of_no_path (hpath : s.pathIndex = none) (hstep : s.stepIndex = none)
    (hmode : s.mode ≠ .path) : s.Coherent where
  path_iff_step := by simp [hpath, hstep]
  function_of_path := by simp [hpath]
  path_nonneg := by simp [hpath]
  step_nonneg := by simp [hstep]
  path_of_mode h := absurd h hmode

/-- Where nothing is selected, nothing is incoherent. -/
theorem coherent_initial : Coherent {} :=
  coherent_of_no_path rfl rfl (by decide)

/-- What concerns neither the function, the path nor the step keeps a selection coherent, as long as it
    does not turn to the mode for paths. -/
theorem Coherent.congr {t : Selection} (h : s.Coherent) (hfunction : t.functionId = s.functionId)
    (hpath : t.pathIndex = s.pathIndex) (hstep : t.stepIndex = s.stepIndex)
    (hmode : t.mode = .path → s.pathIndex.isSome) : t.Coherent where
  path_iff_step := by rw [hpath, hstep]; exact h.path_iff_step
  function_of_path := by rw [hpath, hfunction]; exact h.function_of_path
  path_nonneg := by rw [hpath]; exact h.path_nonneg
  step_nonneg := by rw [hstep]; exact h.step_nonneg
  path_of_mode hpathMode := by rw [hpath]; exact hmode hpathMode

/-- **Step lemma.** Every event keeps a selection coherent. -/
theorem Coherent.apply (h : s.Coherent) (hasSummary : Int → Bool) (event : NavigationEvent) :
    (s.apply hasSummary event).1.Coherent := by
  cases event with
  -- These four clear the path, and with it the step and the mode that need one.
  | selectContract id => exact coherent_of_no_path rfl rfl (by simp [Selection.apply])
  | selectFunction id contract => exact coherent_of_no_path rfl rfl (by simp [Selection.apply, atFunction])
  | navigateToFunction id contract =>
    exact coherent_of_no_path rfl rfl (by simp [Selection.apply, atFunction])
  | backToOverview => exact coherent_of_no_path rfl rfl (by simp [Selection.apply])
  -- These two move neither function, path nor step.
  | inspectVariable id name => exact h.congr rfl rfl rfl (by simp [Selection.apply])
  | selectLine line => exact h.congr rfl rfl rfl h.path_of_mode
  -- The guards refuse what would break coherence, and a refused event changes nothing.
  | selectPath k =>
    simp only [Selection.apply]
    split
    · exact h
    · rename_i haccepted
      simp only [Bool.or_eq_true, decide_eq_true_eq, Option.isNone_iff_eq_none, not_or] at haccepted
      obtain ⟨hk, hfunction⟩ := haccepted
      refine ⟨by simp, ?_, ?_, ?_, by simp⟩
      · exact fun _ => Option.isSome_iff_ne_none.mpr hfunction
      · intro j hj
        cases hj
        exact Int.not_lt.mp hk
      · intro j hj
        cases hj
        exact Int.le_refl 0
  | highlightStep k =>
    simp only [Selection.apply]
    split
    · exact h
    · rename_i haccepted
      simp only [Bool.or_eq_true, decide_eq_true_eq, Option.isNone_iff_eq_none, not_or] at haccepted
      obtain ⟨hk, hpath⟩ := haccepted
      refine ⟨by simp [hpath], h.function_of_path, h.path_nonneg, ?_, h.path_of_mode⟩
      intro j hj
      cases hj
      exact Int.not_lt.mp hk
  | switchMode mode =>
    simp only [Selection.apply]
    split
    · exact h
    · rename_i haccepted
      refine h.congr rfl rfl rfl ?_
      rintro rfl
      simpa [Option.isSome_iff_ne_none] using haccepted

/-- A step is shown exactly in the mode for paths. -/
theorem Coherent.effectiveStep_isSome_iff (h : s.Coherent) :
    s.effectiveStep.isSome ↔ s.mode = .path := by
  unfold effectiveStep
  constructor
  · intro hshown
    split at hshown
    · rename_i hboth
      simp only [Bool.and_eq_true, beq_iff_eq] at hboth
      exact hboth.2
    · cases hshown
  · intro hmode
    have hpath : s.pathIndex.isSome := h.path_of_mode hmode
    rw [if_pos (by simp [hpath, hmode]), Option.isSome_iff_ne_none, ne_eq, ← h.path_iff_step]
    exact Option.isSome_iff_ne_none.mp hpath

/-! ### The selected path -/

/-- The path after an event: events that give it up drop it, and one that asks for a path replaces it if
    the path can be selected. -/
theorem apply_pathIndex (s : Selection) (hasSummary : Int → Bool) (event : NavigationEvent) :
    (s.apply hasSummary event).1.pathIndex =
      if event.leavesPath then none
      else
        match event.path? with
        | some k => if 0 ≤ k ∧ s.functionId.isSome then some k else s.pathIndex
        | none => s.pathIndex := by
  cases event with
  -- The one event that sets a path; every other keeps or drops it.
  | selectPath k =>
    by_cases hk : k < 0
    · simp [Selection.apply, NavigationEvent.leavesPath, NavigationEvent.path?, hk, Int.not_le.mpr hk]
    · cases hfunction : s.functionId <;>
        simp [Selection.apply, NavigationEvent.leavesPath, NavigationEvent.path?, hk, Int.not_lt.mp hk,
          hfunction]
  | highlightStep k => simp only [Selection.apply]; split <;> rfl
  | switchMode mode => simp only [Selection.apply]; split <;> rfl
  | _ => rfl

/-- The function stays as long as the path is not given up. -/
theorem apply_functionId (s : Selection) (hasSummary : Int → Bool) {event : NavigationEvent}
    (h : event.leavesPath = false) : (s.apply hasSummary event).1.functionId = s.functionId := by
  cases event with
  | selectPath k => simp only [Selection.apply]; split <;> rfl
  | highlightStep k => simp only [Selection.apply]; split <;> rfl
  | switchMode mode => simp only [Selection.apply]; split <;> rfl
  | inspectVariable id name => rfl
  | selectLine line => rfl
  | selectContract id => cases h
  | selectFunction id contract => cases h
  | navigateToFunction id contract => cases h
  | backToOverview => cases h

end Selection

/-! ### Runs -/

namespace Navigator

variable {σ : Type}

/-- The navigator after an input.  A value that announces no event is refused. -/
def step (n : Navigator σ) : NavigationInput → Navigator σ
  | .reset => n.reset.1
  | .event hasSummary event => (n.dispatch hasSummary event).1
  | .announced hasSummary v =>
    match NavigationEvent.ofWire v with
    | .ok event => (n.dispatch hasSummary event).1
    | .error _ => n

/-- The navigator after a list of inputs. -/
def run (n : Navigator σ) (inputs : List NavigationInput) : Navigator σ :=
  inputs.foldl step n

/-- All that an input can do to the selection of a navigator. -/
inductive InputStep (n : Navigator σ) (input : NavigationInput) : Prop
  | reset (hinput : input = .reset) (hselection : (n.step input).selection = {})
  | applied (hasSummary : Int → Bool) (event : NavigationEvent) (hevent : input.event? = some event)
      (hleaves : input.leavesPath = event.leavesPath)
      (hselection : (n.step input).selection = (n.selection.apply hasSummary event).1)
  | refused (hevent : input.event? = none) (hleaves : input.leavesPath = false)
      (hselection : (n.step input).selection = n.selection)

/-- **Inversion.** An input resets the selection, applies its event, or is refused. -/
theorem inputStep (n : Navigator σ) (input : NavigationInput) : n.InputStep input := by
  cases input with
  | reset => exact .reset rfl rfl
  | event hasSummary event => exact .applied hasSummary event rfl rfl rfl
  -- A wire object is the event it reads as; one that cannot be read raises before the selection moves.
  | announced hasSummary v =>
    cases hwire : NavigationEvent.ofWire v with
    | ok event =>
      have hevent : (NavigationInput.announced hasSummary v).event? = some event := by
        simp [NavigationInput.event?, hwire, Except.toOption]
      refine .applied hasSummary event hevent ?_ ?_
      · rw [NavigationInput.leavesPath, hevent]
        · rfl
        · nofun
      · simp only [step, hwire, dispatch]
    | error fault =>
      have hevent : (NavigationInput.announced hasSummary v).event? = none := by
        simp [NavigationInput.event?, hwire, Except.toOption]
      refine .refused hevent ?_ ?_
      · rw [NavigationInput.leavesPath, hevent]
        · rfl
        · nofun
      · simp only [step, hwire]

@[simp] theorem run_nil (n : Navigator σ) : n.run [] = n := rfl

/-- The last input of a run is handled at the end of the others. -/
theorem run_concat (n : Navigator σ) (inputs : List NavigationInput) (input : NavigationInput) :
    n.run (inputs ++ [input]) = (n.run inputs).step input := by
  simp [run]

/-- **Step lemma.** Every input keeps the selection coherent. -/
theorem coherent_step {n : Navigator σ} (h : n.selection.Coherent) (input : NavigationInput) :
    (n.step input).selection.Coherent := by
  cases n.inputStep input with
  | reset hinput hselection => rw [hselection]; exact Selection.coherent_initial
  | applied hasSummary event hevent hleaves hselection => rw [hselection]; exact h.apply hasSummary event
  | refused hevent hleaves hselection => rw [hselection]; exact h

/-- **Run lemma.** A coherent selection is coherent after every run. -/
theorem coherent_run {n : Navigator σ} (h : n.selection.Coherent) (inputs : List NavigationInput) :
    (n.run inputs).selection.Coherent := by
  induction inputs generalizing n with
  | nil => exact h
  | cons input inputs ih => exact ih (coherent_step h input)

/-! ### Where the selected path comes from -/

/-- The path after an input. -/
theorem pathIndex_step (n : Navigator σ) (input : NavigationInput) :
    (n.step input).selection.pathIndex =
      if input.leavesPath then none
      else
        match input.path? with
        | some k => if 0 ≤ k ∧ n.selection.functionId.isSome then some k else n.selection.pathIndex
        | none => n.selection.pathIndex := by
  cases n.inputStep input with
  | reset hinput hselection => rw [hselection, hinput]; rfl
  | applied hasSummary event hevent hleaves hselection =>
    rw [hselection, hleaves, Selection.apply_pathIndex]
    simp only [NavigationInput.path?, hevent, Option.bind_some]
  | refused hevent hleaves hselection =>
    rw [hselection, hleaves]
    simp [NavigationInput.path?, hevent]

/-- The function stays as long as no input gives up the path. -/
theorem functionId_step (n : Navigator σ) {input : NavigationInput} (h : input.leavesPath = false) :
    (n.step input).selection.functionId = n.selection.functionId := by
  cases n.inputStep input with
  | reset hinput hselection => rw [hinput] at h; cases h
  | applied hasSummary event hevent hleaves hselection =>
    rw [hselection]
    exact n.selection.apply_functionId hasSummary (hleaves.symm.trans h)
  | refused hevent hleaves hselection => rw [hselection]

/-- The path `k` was asked for while a function was selected, and no later input gives up the path or asks
    for another one that there can be. -/
def PathSetBy (n : Navigator σ) (inputs : List NavigationInput) (k : Int) : Prop :=
  ∃ before input after, inputs = before ++ input :: after ∧
    input.path? = some k ∧ 0 ≤ k ∧ (n.run before).selection.functionId.isSome ∧
    ∀ later ∈ after, later.leavesPath = false ∧ ∀ j, later.path? = some j → j < 0

/-- Without inputs no path was set. -/
theorem not_pathSetBy_nil (n : Navigator σ) (k : Int) : ¬ n.PathSetBy [] k := by
  rintro ⟨before, input, after, hinputs, -⟩
  simp at hinputs

/-- One more input sets the path itself, or leaves the path that was set before. -/
theorem pathSetBy_concat (n : Navigator σ) (inputs : List NavigationInput) (input : NavigationInput)
    (k : Int) :
    n.PathSetBy (inputs ++ [input]) k ↔
      (input.path? = some k ∧ 0 ≤ k ∧ (n.run inputs).selection.functionId.isSome) ∨
        (n.PathSetBy inputs k ∧ input.leavesPath = false ∧ ∀ j, input.path? = some j → j < 0) := by
  constructor
  · rintro ⟨before, first, after, hinputs, hpath, hk, hfunction, hlater⟩
    -- Either the new input is the one that set the path, or it comes after that one and left it.
    rcases List.eq_nil_or_concat after with rfl | ⟨after', last, rfl⟩
    · obtain ⟨rfl, hlast⟩ := List.append_inj' hinputs rfl
      cases hlast
      exact .inl ⟨hpath, hk, hfunction⟩
    · rw [List.concat_eq_append] at hinputs hlater
      have hsplit : inputs ++ [input] = (before ++ first :: after') ++ [last] := by
        simpa using hinputs
      obtain ⟨rfl, hlast⟩ := List.append_inj' hsplit rfl
      cases hlast
      refine .inr ⟨⟨before, first, after', rfl, hpath, hk, hfunction, ?_⟩, hlater _ (by simp)⟩
      exact fun later h => hlater later (List.mem_append_left _ h)
  · rintro (⟨hpath, hk, hfunction⟩ | ⟨⟨before, first, after, rfl, hpath, hk, hfunction, hlater⟩, hinput⟩)
    · exact ⟨inputs, input, [], rfl, hpath, hk, hfunction, by simp⟩
    · refine ⟨before, first, after ++ [input], by simp, hpath, hk, hfunction, ?_⟩
      intro later h
      rcases List.mem_append.mp h with hafter | hlast
      · exact hlater later hafter
      · rw [List.mem_singleton.mp hlast]
        exact hinput

/-- While a path is set, a function is selected: no input since then has given it up. -/
theorem PathSetBy.functionId_isSome {n : Navigator σ} {inputs : List NavigationInput} {k : Int}
    (h : n.PathSetBy inputs k) : (n.run inputs).selection.functionId.isSome := by
  induction inputs using List.reverseRecOn with
  | nil => exact absurd h (n.not_pathSetBy_nil k)
  | append_singleton inputs input ih =>
    rw [run_concat]
    rcases (n.pathSetBy_concat inputs input k).mp h with ⟨hpath, hk, hfunction⟩ | ⟨hset, hleaves, -⟩
    · rw [functionId_step _ (NavigationInput.leavesPath_of_path? hpath)]
      exact hfunction
    · rw [functionId_step _ hleaves]
      exact ih hset

/-- **Run lemma.** The selected path is exactly the one that is set: it was asked for while a function was
    selected, and nothing since then has given it up or replaced it. -/
theorem pathIndex_run_eq_some_iff {n : Navigator σ} (hn : n.selection.pathIndex = none)
    (inputs : List NavigationInput) (k : Int) :
    (n.run inputs).selection.pathIndex = some k ↔ n.PathSetBy inputs k := by
  -- The induction is on the end of the run, as the last input decides first.
  induction inputs using List.reverseRecOn with
  | nil => simp [hn, not_pathSetBy_nil]
  | append_singleton inputs input ih =>
    rw [run_concat, pathIndex_step, pathSetBy_concat]
    cases hleaves : input.leavesPath with
    | true =>
      have hpath : ∀ j, input.path? ≠ some j := by
        intro j hj
        rw [NavigationInput.leavesPath_of_path? hj] at hleaves
        cases hleaves
      simp [hpath]
    | false =>
      cases hpath : input.path? with
      | none => simp [ih]
      | some j =>
        by_cases hfunction : (n.run inputs).selection.functionId.isSome
        · by_cases hj : 0 ≤ j
          · -- The path is replaced by the one that is asked for.
            simp only [Bool.false_eq_true, if_false, if_true, hj, hfunction, and_self, and_true, true_and,
              Option.some.injEq, forall_eq']
            constructor
            · rintro rfl
              exact .inl ⟨rfl, hj⟩
            · rintro (⟨rfl, -⟩ | ⟨-, hnegative⟩)
              · rfl
              · omega
          · simp only [Bool.false_eq_true, if_false, hj, false_and, true_and, ih, Option.some.injEq,
              forall_eq']
            constructor
            · exact fun hset => .inr ⟨hset, Int.not_le.mp hj⟩
            · rintro (⟨rfl, hk, -⟩ | ⟨hset, -⟩)
              · exact absurd hk hj
              · exact hset
        · -- Without a function no path is set.
          have hunset : ¬ n.PathSetBy inputs k := fun h => hfunction h.functionId_isSome
          simp [hfunction, ih, hunset]

/-- **Coherence of navigation.** Start with nothing selected, and give a navigator any events, values that
    announce events, and resets, with any functions that have a summary.  Then the parts of its selection
    fit together; a step is shown exactly in the mode for paths; and a path is selected exactly if it was
    asked for, while a function was selected, by an input after the last one that gives up the path, and no
    input since then asks for another path that there can be. -/
theorem selection_run_coherent (subscribers : List σ) (inputs : List NavigationInput) :
    let start : Navigator σ := { subscribers := subscribers }
    let s := (start.run inputs).selection
    s.Coherent ∧ (s.effectiveStep.isSome ↔ s.mode = .path) ∧
      ∀ k, s.pathIndex = some k ↔ start.PathSetBy inputs k := by
  intro start s
  have hcoherent : s.Coherent := coherent_run Selection.coherent_initial inputs
  exact ⟨hcoherent, hcoherent.effectiveStep_isSome_iff, fun k => pathIndex_run_eq_some_iff rfl inputs k⟩

end Navigator

end RangeAudit
