import RangeAudit.Proofs.Workbench.History

namespace RangeAudit

/-!
# What a selection that fails leaves behind

The selection of a contract asks for its analysis and then for its source, and the contract is selected
before both.  The selection of a function asks for the analysis of its owner and then for its source, and
the function is selected between them.  So a call that fails may have selected something, or have taken up
an analysis; but the display stays as it was.

* `Session.Unchanged` — nothing that is selected, displayed or held has changed;
* `Session.takesUp`, `Session.reached` — the analysis that a call takes up, and the selection that it
  reaches, whether or not it fails afterwards;
* `Session.Failed`, `Session.failed_called` — what is known of a session after a call that has failed;
* `Workbench.unchanged_iff_of_fault` — hence a call that fails changes nothing if and only if it takes up
  no analysis and reaches no other selection.

`Workbench.not_always_unchanged` is a contract whose analysis cannot be had: it is selected, with the source
of the contract before it.
-/

/-- A session holds the analysis that another one holds, and the same data of functions. -/
structure Session.HoldsSame (s t : Session) : Prop where
  loaded : t.loaded = s.loaded
  details : t.details = s.details
  flowGraphs : t.flowGraphs = s.flowGraphs

/-- Nothing that is selected, displayed or held has changed. -/
structure Session.Unchanged (s t : Session) : Prop extends Session.HoldsSame s t where
  selection : t.selection = s.selection
  display : t.display = s.display

namespace Session

/-- Is an analysis taken up for an event: must it be fetched, and can it be had? -/
def takesUp (engine : Oracle) (contracts : List Contract) (s : Session) (event : NavigationEvent) : Bool :=
  (event.contract? contracts).any fun c => s.needsAnalysis c && (engine (.analysis c.name)).isOk

/-- The selection that an event reaches.  A contract is selected whatever becomes of its analysis, a function
    only if the analysis of its owner, where it must be fetched, can be had. -/
def reached (engine : Oracle) (contracts : List Contract) (s : Session) : NavigationEvent → Selection
  | .selectContract id =>
    if (Contract.withId? contracts id).isSome then { contractId := some id } else s.selection
  | .selectFunction id _ | .navigateToFunction id _ =>
    let owner := Contract.ownerOf? contracts id
    if owner.all fun c => !s.needsAnalysis c || (engine (.analysis c.name)).isOk then
      s.selection.atFunction id (owner.map Contract.id)
    else s.selection
  | event => (s.navigate event).1.selection

/-- What is known of a session after a call that has failed. -/
structure Failed (engine : Oracle) (contracts : List Contract) (s : Session) (event : NavigationEvent)
    (t : Session) : Prop where
  display : t.display = s.display
  fetches : t.fetches = s.fetches
  selection : t.selection = s.reached engine contracts event
  holds : s.HoldsSame t ↔ s.takesUp engine contracts event = false

variable {engine : Oracle} {contracts : List Contract} {s t : Session} {event : NavigationEvent}
  {c : Contract} {functionId : Int}

/-- A function is reached unless the analysis of its owner must be fetched and cannot be had. -/
theorem reached_of_function (hevent : event.function? = some functionId) :
    s.reached engine contracts event =
      if (Contract.ownerOf? contracts functionId).all
          fun c => !s.needsAnalysis c || (engine (.analysis c.name)).isOk then
        s.selection.atFunction functionId ((Contract.ownerOf? contracts functionId).map Contract.id)
      else s.selection := by
  cases event <;> cases hevent <;> rfl

/-! ### The analysis -/

theorem holdsSame_refl (s : Session) : s.HoldsSame s := ⟨rfl, rfl, rfl⟩

/-- What is held does not depend on the selection. -/
theorem holdsSame_select (s t : Session) (selection other : Selection) :
    ({ s with selection := selection } : Session).HoldsSame { t with selection := other } ↔
      s.HoldsSame t :=
  ⟨fun h => ⟨h.loaded, h.details, h.flowGraphs⟩, fun h => ⟨h.loaded, h.details, h.flowGraphs⟩⟩

/-- What must be fetched is not in use, so to use it is a change. -/
theorem not_holdsSame_useAnalysis (h : s.needsAnalysis c = true) (a : Analysis) :
    ¬ s.HoldsSame (s.useAnalysis c.name a) := by
  intro hsame
  have huses : s.Uses c := by
    rw [Uses, ← hsame.loaded]
    rfl
  exact not_uses_of_needs h huses

/-- An analysis that cannot be had had to be fetched. -/
theorem analysed_eq_error {fault : Fault} (h : s.analysed engine c = .error fault) :
    s.needsAnalysis c = true ∧ (engine (.analysis c.name)).isOk = false := by
  unfold analysed at h
  split at h
  · rename_i hneeds
    cases hanswer : engine (.analysis c.name) with
    | error fault => exact ⟨hneeds, rfl⟩
    | ok a => rw [hanswer] at h; cases h
  · cases h

/-- The analysis of a contract is in use, or it is taken up; the selection and the display do not change. -/
structure AfterAnalysis (engine : Oracle) (contracts : List Contract) (s : Session) (event : NavigationEvent)
    (c : Contract) (t : Session) : Prop where
  had : (!s.needsAnalysis c || (engine (.analysis c.name)).isOk) = true
  selection : t.selection = s.selection
  display : t.display = s.display
  fetches : t.fetches = s.fetches
  holds : s.HoldsSame t ↔ s.takesUp engine contracts event = false

/-- An analysis that could be had was in use already, or is taken up. -/
theorem afterAnalysis_of_ok (hevent : event.contract? contracts = some c) (h : s.analysed engine c = .ok t) :
    s.AfterAnalysis engine contracts event c t := by
  rcases analysed_eq_ok h with ⟨hneeds, rfl⟩ | ⟨hneeds, a, ha, rfl⟩
  · have htakes : t.takesUp engine contracts event = false := by simp [takesUp, hevent, hneeds]
    exact ⟨by simp [hneeds], rfl, rfl, rfl, fun _ => htakes, fun _ => t.holdsSame_refl⟩
  · have htakes : s.takesUp engine contracts event = true := by
      simp [takesUp, hevent, hneeds, ha, Except.isOk, Except.toBool]
    refine ⟨by simp [ha, Except.isOk, Except.toBool], rfl, rfl, rfl, fun hsame => ?_, fun hnot => ?_⟩
    · exact absurd hsame (not_holdsSame_useAnalysis hneeds a)
    · rw [htakes] at hnot
      cases hnot

/-! ### Calls that fail -/

/-- If the source of a function cannot be had, the function is selected all the same. -/
theorem opened_of_fault {owner : Option Contract}
    (h : (s.opened engine owner functionId).1.isOk = false) :
    (s.opened engine owner functionId).2 =
      { s with selection := s.selection.atFunction functionId (owner.map Contract.id) } := by
  unfold opened at h ⊢
  split at h
  · rfl
  · cases h

/-- A source that cannot be had leaves the session as it is. -/
theorem entered_of_fault {id : Int} (h : (s.entered engine id).1.isOk = false) :
    (s.entered engine id).2 = s := by
  unfold entered at h ⊢
  split at h
  · rfl
  · cases h

/-- What a call leaves behind that fails. -/
theorem failed_called (hcontracts : s.contracts = some contracts)
    (hfault : (s.called engine (.dispatch event)).1.isOk = false) :
    s.Failed engine contracts event (s.called engine (.dispatch event)).2 := by
  have hvisit : Visit engine contracts s event (s.called engine (.dispatch event)) :=
    visit_called hcontracts event
  generalize s.called engine (.dispatch event) = r at hfault hvisit
  -- In each case, what was done before the fault stays, and the display comes last.
  cases hvisit with
  | steer => cases hfault
  | unknownContract id hevent hfind =>
    subst hevent
    refine ⟨rfl, rfl, ?_, fun _ => ?_, fun _ => s.holdsSame_refl⟩
    · simp [reached, hfind]
    · simp [takesUp, NavigationEvent.contract?, hfind]
  | contractUnread id c fault hevent hfind hanalysis =>
    subst hevent
    have hunread := analysed_eq_error hanalysis
    refine ⟨rfl, rfl, ?_, fun _ => ?_, fun _ => (s.holdsSame_select s s.selection _).mpr s.holdsSame_refl⟩
    · simp [reached, hfind, atContract]
    · simp [takesUp, NavigationEvent.contract?, hfind, hunread.2]
  | contract id c t hevent hfind hanalysis =>
    subst hevent
    have hasked : NavigationEvent.contract? contracts (.selectContract id) = some c := hfind
    have ht : (s.atContract id).AfterAnalysis engine contracts (.selectContract id) c t :=
      afterAnalysis_of_ok hasked hanalysis
    rw [entered_of_fault hfault]
    refine ⟨ht.display, ht.fetches, ?_, ?_⟩
    · rw [ht.selection]
      simp [reached, hfind, atContract]
    · exact (s.holdsSame_select t { contractId := some id } t.selection).symm.trans ht.holds
  | ownerless functionId hevent hfind =>
    rw [opened_of_fault hfault]
    refine ⟨rfl, rfl, ?_, fun _ => ?_, fun _ => (s.holdsSame_select s s.selection _).mpr s.holdsSame_refl⟩
    · simp [reached_of_function hevent, hfind]
    · simp [takesUp, NavigationEvent.contract?_of_function hevent, hfind]
  | functionUnread functionId owner fault hevent hfind hanalysis =>
    have hunread := analysed_eq_error hanalysis
    refine ⟨rfl, rfl, ?_, fun _ => ?_, fun _ => s.holdsSame_refl⟩
    · simp [reached_of_function hevent, hfind, hunread.1, hunread.2]
    · simp [takesUp, NavigationEvent.contract?_of_function hevent, hfind, hunread.2]
  | function functionId owner t hevent hfind hanalysis =>
    have ht : s.AfterAnalysis engine contracts event owner t :=
      afterAnalysis_of_ok ((NavigationEvent.contract?_of_function hevent).trans hfind) hanalysis
    rw [opened_of_fault hfault]
    refine ⟨ht.display, ht.fetches, ?_, ?_⟩
    · rw [reached_of_function hevent, hfind, Option.all_some, if_pos ht.had, ← ht.selection]
    · exact (s.holdsSame_select t s.selection _).trans ht.holds

end Session

namespace Workbench

variable {archive : Archive} {b : Workbench} {contracts : List Contract} {event : NavigationEvent}

/-- **Failed selections.** Take a workbench with contracts, whatever else happened to it, and an event whose
    call fails.  The display stays as it was, so it is left alone by a new selection as well; and nothing at
    all has changed if and only if no analysis was taken up and the selection that was reached is the one
    that there was. -/
theorem unchanged_iff_of_fault (h : b.engine.Recalls archive)
    (hcontracts : b.session.contracts = some contracts) (hfault : (b.dispatch event).1.isOk = false) :
    (b.dispatch event).2.session.display = b.session.display ∧
      (b.session.Unchanged (b.dispatch event).2.session ↔
        b.session.takesUp archive.oracle contracts event = false ∧
          b.session.reached archive.oracle contracts event = b.session.selection) := by
  obtain ⟨e, -, hcall⟩ := call_eq_called h (.dispatch event)
  have hdispatch : b.dispatch event = ((b.session.called archive.oracle (.dispatch event)).1,
      b.advance e (b.session.called archive.oracle (.dispatch event)).2) := hcall
  rw [hdispatch] at hfault ⊢
  have hfailed := Session.failed_called hcontracts hfault
  refine ⟨hfailed.display, fun hsame => ⟨?_, ?_⟩, fun ⟨htakes, hreached⟩ => ?_⟩
  · exact hfailed.holds.mp hsame.toHoldsSame
  · exact hfailed.selection.symm.trans hsame.selection
  · exact ⟨hfailed.holds.mpr htakes, hfailed.selection.trans hreached, hfailed.display⟩

/-- The analysis of the second contract cannot be had. -/
def unreadToken : Archive :=
  { Archive.ofVaultAndToken with analyses := Archive.ofVaultAndToken.analyses.take 1 }

/-- The first contract is displayed. -/
def atVault : List Act :=
  [.visit (.selectContract 1)]

/-- The contract is selected although its analysis cannot be read. -/
theorem unchanged_iff_of_fault_of_unreadToken :
    ((loaded unreadToken {}).after atVault).engine.Recalls unreadToken ∧
      ((loaded unreadToken {}).after atVault).session.contracts = some unreadToken.contracts ∧
      (((loaded unreadToken {}).after atVault).dispatch (.selectContract 2)).1.isOk = false ∧
      (((loaded unreadToken {}).after atVault).dispatch (.selectContract 2)).2.session.display =
        ((loaded unreadToken {}).after atVault).session.display ∧
      (((loaded unreadToken {}).after atVault).session.Unchanged
          (((loaded unreadToken {}).after atVault).dispatch (.selectContract 2)).2.session ↔
        ((loaded unreadToken {}).after atVault).session.takesUp unreadToken.oracle unreadToken.contracts
            (.selectContract 2) = false ∧
          ((loaded unreadToken {}).after atVault).session.reached unreadToken.oracle unreadToken.contracts
              (.selectContract 2) =
            ((loaded unreadToken {}).after atVault).session.selection) := by
  obtain ⟨hrest, -⟩ := atRest_after unreadToken {} atVault
  have hfault : (((loaded unreadToken {}).after atVault).dispatch (.selectContract 2)).1.isOk = false := by
    decide +kernel
  exact ⟨hrest.engine, hrest.session.contracts, hfault,
    unchanged_iff_of_fault hrest.engine hrest.session.contracts hfault⟩

/-- **A selection that fails can change something**, even if nothing is under way: the contract whose analysis
    cannot be had stays selected. -/
theorem not_always_unchanged :
    ¬ ∀ (archive : Archive) (config : Config) (history : List Act) (event : NavigationEvent),
      (archive.contracts.map Contract.name).Nodup →
      (archive.contracts.flatMap fun c => c.functions.map FunctionInfo.id).Nodup →
      event.selects = true →
      (((loaded archive config).after history).dispatch event).1.isOk = false →
      ((loaded archive config).after history).session.Unchanged
        (((loaded archive config).after history).dispatch event).2.session := by
  intro h
  have hunchanged := h unreadToken {} atVault (.selectContract 2) (by decide +kernel) (by decide +kernel)
    rfl (by decide +kernel)
  exact absurd hunchanged.selection (by decide +kernel)

end Workbench

end RangeAudit
