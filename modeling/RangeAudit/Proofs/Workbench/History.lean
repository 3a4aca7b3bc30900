import RangeAudit.Proofs.Session.Arrival
import RangeAudit.Proofs.Workbench.Visits

namespace RangeAudit

/-!
# The history of a workbench cannot be seen

Events are dispatched at a workbench, one after the other, each when everything that the one before it has
sent out has come, and views are read in between.  Events may fail, also midway.  Then a function is selected
whose owner can be analysed.

* `Workbench.Act`, `Workbench.after` — what is done at a workbench, and the workbench after a history;
* `Workbench.atRest_after` — after every history, the workbench is at rest;
* `Workbench.AtRest.dispatch_eq_ok_iff`, `Workbench.AtRest.shows` — what a selection then comes to;
* `Workbench.panels_independent_of_history` — hence the panels are those of a workbench without a history.
-/

namespace Workbench

/-- What is done at a workbench, one thing after the other. -/
inductive Act where
  /-- An event is dispatched, and everything that it sends out comes. -/
  | visit (event : NavigationEvent)
  /-- A kept view is read. -/
  | read (view : KeptView)
  deriving DecidableEq, Inhabited

/-- The workbench after something was done, whether it has failed or not. -/
def act (b : Workbench) : Act → Workbench
  | .visit event => (b.dispatch event).2.settle
  | .read view => { b with session := b.session.read view }

/-- The workbench after a history. -/
def after (b : Workbench) (history : List Act) : Workbench :=
  history.foldl act b

/-- A workbench at which the contracts of an archive were loaded, and nothing else was done. -/
def loaded (archive : Archive) (config : Config) : Workbench :=
  (fresh (Engine.fresh archive) config).load.2

/-- Loading the contracts does not fail. -/
theorem load_fresh (archive : Archive) (config : Config) :
    (fresh (Engine.fresh archive) config).load = (.ok (), loaded archive config) := by
  obtain ⟨hload, -⟩ := atRest_load archive config
  exact Prod.ext hload rfl

variable {archive : Archive} {b : Workbench} {event : NavigationEvent} {owner : Contract} {functionId : Int}

/-! ### At rest -/

/-- **Step lemma.** Whatever is done, the workbench is at rest again, with the settings that it had. -/
theorem AtRest.act (h : b.AtRest archive) (a : Act) :
    (b.act a).AtRest archive ∧ (b.act a).session.config = b.session.config := by
  cases a with
  | visit event =>
    obtain ⟨-, hsession, hrest⟩ := h.visit event
    refine ⟨hrest, ?_⟩
    show (b.dispatch event).2.settle.session.config = _
    rw [hsession]
    exact (Session.changes_visited archive.oracle b.session (.dispatch event)).config_eq
  | read view =>
    refine ⟨h.read view, ?_⟩
    obtain ⟨_, hread⟩ := b.session.read_eq view
    show (b.session.read view).config = _
    rw [hread]

/-- **Run lemma.** After every history, the workbench is at rest, with the settings that it had. -/
theorem atRest_after (archive : Archive) (config : Config) (history : List Act) :
    ((loaded archive config).after history).AtRest archive ∧
      ((loaded archive config).after history).session.config = config := by
  obtain ⟨-, hrest, hconfig⟩ := atRest_load archive config
  have hrun : ∀ (history : List Act) (b : Workbench), b.AtRest archive → b.session.config = config →
      (b.after history).AtRest archive ∧ (b.after history).session.config = config := by
    intro history
    induction history with
    | nil => exact fun b hb hconfig => ⟨hb, hconfig⟩
    | cons a rest ih =>
      intro b hb hconfig
      obtain ⟨hact, hsame⟩ := hb.act a
      exact ih (b.act a) hact (hsame.trans hconfig)
  exact hrun history _ hrest hconfig

/-! ### Selecting a function -/

/-- The selection of a function succeeds if and only if the analysis of its owner and its source can be had. -/
theorem AtRest.dispatch_eq_ok_iff (h : b.AtRest archive) (hevent : event.function? = some functionId)
    (howner : Contract.ownerOf? archive.contracts functionId = some owner)
    (hanalyzable : owner.analyzable = true) :
    (b.dispatch event).1 = .ok () ↔
      (archive.oracle (.analysis owner.name)).isOk = true ∧
        (archive.oracle (.source functionId)).isOk = true := by
  rw [(h.visit event).1]
  exact h.session.called_eq_ok_iff hevent howner hanalyzable

/-- A selection that has succeeded is shown once everything has come. -/
theorem AtRest.shows (h : b.AtRest archive) (hevent : event.function? = some functionId)
    (howner : Contract.ownerOf? archive.contracts functionId = some owner)
    (hanalyzable : owner.analyzable = true) (hok : (b.dispatch event).1 = .ok ()) :
    (b.dispatch event).2.settle.session.Shows archive.oracle owner functionId := by
  obtain ⟨houtcome, hsession, -⟩ := h.visit event
  rw [houtcome] at hok
  rw [hsession]
  exact h.session.shows_of_called hevent howner hanalyzable hok

/-- **History independence.** After every history, a selection of a function that succeeds also succeeds at a
    workbench without a history; and once everything has come, all panels show the same at both. -/
theorem panels_independent_of_history (archive : Archive) (config : Config) (history : List Act)
    (hevent : event.function? = some functionId)
    (howner : Contract.ownerOf? archive.contracts functionId = some owner)
    (hanalyzable : owner.analyzable = true)
    (hok : (((loaded archive config).after history).dispatch event).1 = .ok ()) :
    ((loaded archive config).dispatch (.selectFunction functionId none)).1 = .ok () ∧
      (((loaded archive config).after history).act (.visit event)).session.panels =
        ((loaded archive config).act (.visit (.selectFunction functionId none))).session.panels := by
  obtain ⟨hrest, hconfig⟩ := atRest_after archive config history
  obtain ⟨hrest', hconfig'⟩ : (loaded archive config).AtRest archive ∧
      (loaded archive config).session.config = config := (atRest_load archive config).2
  have hevent' : (NavigationEvent.selectFunction functionId none).function? = some functionId := rfl
  -- Both workbenches are at rest over the same archive, where a visit succeeds or fails alike.
  have hok' : ((loaded archive config).dispatch (.selectFunction functionId none)).1 = .ok () := by
    rw [hrest'.dispatch_eq_ok_iff hevent' howner hanalyzable]
    exact (hrest.dispatch_eq_ok_iff hevent howner hanalyzable).mp hok
  refine ⟨hok', ?_⟩
  obtain ⟨hvisit, hsame⟩ := hrest.act (.visit event)
  obtain ⟨hvisit', hsame'⟩ := hrest'.act (.visit (.selectFunction functionId none))
  -- Two sessions that show the same function of the same engine have the same panels.
  refine Session.panels_eq_of_shows (hrest.shows hevent howner hanalyzable hok)
    (hrest'.shows hevent' howner hanalyzable hok') hvisit.session.ready hvisit'.session.ready ?_
  rw [hsame, hsame', hconfig, hconfig']

/-- Two functions and a contract are visited, with a path and a variable, one visit fails, and views are read. -/
def busyHistory : List Act :=
  [.visit (.selectFunction 10 none), .visit (.selectPath 0), .read .lines, .visit (.selectContract 99),
    .visit (.inspectVariable (some 7) (some "fee")), .visit (.selectContract 2), .read .risks,
    .visit (.selectFunction 20 none), .read .notes, .visit (.selectLine 3)]

/-- After a busy history, the panels are those of a fresh workbench. -/
theorem panels_independent_of_history_of_busyHistory :
    (NavigationEvent.navigateToFunction 10 (some 2)).function? = some 10 ∧
      Contract.ownerOf? Archive.ofVaultAndToken.contracts 10 =
        some { id := 1, name := "Vault", functions := [{ id := 10, name := "deposit" }] } ∧
      (((loaded Archive.ofVaultAndToken {}).after busyHistory).dispatch
        (.navigateToFunction 10 (some 2))).1 = .ok () ∧
      ((loaded Archive.ofVaultAndToken {}).dispatch (.selectFunction 10 none)).1 = .ok () ∧
      (((loaded Archive.ofVaultAndToken {}).after busyHistory).act
          (.visit (.navigateToFunction 10 (some 2)))).session.panels =
        ((loaded Archive.ofVaultAndToken {}).act (.visit (.selectFunction 10 none))).session.panels := by
  have howner : Contract.ownerOf? Archive.ofVaultAndToken.contracts 10 =
      some { id := 1, name := "Vault", functions := [{ id := 10, name := "deposit" }] } := by
    decide +kernel
  have hanalyzable : ({ id := 1, name := "Vault", functions := [{ id := 10, name := "deposit" }] } :
      Contract).analyzable = true := by
    decide +kernel
  have hok : (((loaded Archive.ofVaultAndToken {}).after busyHistory).dispatch
      (.navigateToFunction 10 (some 2))).1 = .ok () := by
    rw [(atRest_after _ {} busyHistory).1.dispatch_eq_ok_iff rfl howner hanalyzable]
    decide +kernel
  exact ⟨rfl, howner, hok, panels_independent_of_history Archive.ofVaultAndToken {} busyHistory rfl howner
    hanalyzable hok⟩

end Workbench

end RangeAudit
