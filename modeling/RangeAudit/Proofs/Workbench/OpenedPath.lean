import RangeAudit.Console.Run
import RangeAudit.Proofs.Session.SelectedPath
import RangeAudit.Proofs.Workbench.Opening

namespace RangeAudit

/-!
# A path that was opened

A path is opened at a workbench where a function was opened and everything has come, so the paths among which its
position is looked up are those that stay.  The path is selected then, and one of its steps; both events fit the
selection, so neither is ignored.

* `Selection.opening` — the selection of a path and a step of it;
* `Workbench.atRest_openFunction` — nothing is under way where a function was opened;
* `Workbench.AtRest.steer` — an event that fetches nothing leaves it so;
* `Workbench.AtRest.openPath_eq_ok`, `Workbench.AtRest.openPath_eq_error` — what opening a path comes to;
* `Workbench.OnPath` — nothing is under way, and the path is on view;
* `Console.runInspect_ending` — then the inspection of the path prints it and ends well;
* `Workbench.openAt_onPath` — hence a path that was opened is the one that was asked for.
-/

/-! ### Selecting a path and a step -/

/-- The step that is shown of a path that is opened: the one that is asked for, if it can be one, else the first. -/
def openedStep : Option Int → Int
  | some step => if 0 ≤ step then step else 0
  | none => 0

namespace Selection

/-- The selection when a path is opened. -/
def opening (s : Selection) (k : Int) (step : Option Int) : Selection :=
  { s with pathIndex := some k, stepIndex := some (openedStep step), mode := .path }

variable {s : Selection}

/-- Where a path is selected, a step can be. -/
theorem apply_highlightStep (hpath : s.pathIndex.isSome) (hasSummary : Int → Bool) (k : Int) :
    (s.apply hasSummary (.highlightStep k)).1 = if 0 ≤ k then { s with stepIndex := some k } else s := by
  have hselected : s.pathIndex.isNone = false := by
    obtain ⟨selected, hselected⟩ := Option.isSome_iff_exists.mp hpath
    rw [hselected]
    rfl
  by_cases hk : 0 ≤ k
  · have hfits : (k < 0 || s.pathIndex.isNone) = false := by
      simp [Int.not_lt.mpr hk, hselected]
    simp only [apply, hfits, Bool.false_eq_true, if_false, if_pos hk]
  · have hignored : (k < 0 || s.pathIndex.isNone) = true := by
      simp [Int.not_le.mp hk]
    simp only [apply, hignored, if_true, if_neg hk]

end Selection

/-! ### Events at rest -/

namespace Session.AtRest

variable {engine : Oracle} {contracts : List Contract} {s : Session}

/-- An event that fetches nothing leaves a session at rest. -/
theorem navigate (h : s.AtRest engine contracts) {event : NavigationEvent} (hevent : event.selects = false) :
    (s.navigate event).1.AtRest engine contracts := by
  have hvisited := h.visited event
  rw [called_steer h.contracts hevent] at hvisited
  rwa [settled_of_idle (show (s.navigate event).1.fetches = [] from h.idle)] at hvisited

end Session.AtRest

namespace Workbench

variable {archive : Archive} {config : Config} {spec : String} {b : Workbench} {k : Int} {step : Option Int}

/-- Where a function was opened, nothing is under way. -/
theorem atRest_openFunction (hopen : openFunction (Engine.fresh archive) config spec = .ok b) :
    b.AtRest archive := by
  cases hfind : (loaded archive config).session.findFunction spec with
  | ok found => exact (openIn_openFunction hfind hopen).1
  | error fault =>
    simp only [openFunction, load_fresh, hfind] at hopen
    cases hopen

namespace AtRest

/-- An event that fetches nothing changes the selection only, and leaves a workbench at rest. -/
theorem steer (h : b.AtRest archive) {event : NavigationEvent} (hevent : event.selects = false) :
    b.dispatch event = (.ok (), (b.navigate event).2) ∧ (b.navigate event).2.AtRest archive := by
  refine ⟨?_, ⟨h.engine, h.session.navigate hevent, h.held, h.queue, h.parked⟩⟩
  have hidle : (b.session.navigate event).1.fetches = [] := h.session.idle
  rw [Workbench.dispatch, call, Session.begin_steer h.session.contracts hevent]
  simp only [drive, advance, hidle, List.filter_nil, List.map_nil, List.append_nil]
  rfl

/-- At rest there is nothing to wait for. -/
theorem settle_session (h : b.AtRest archive) : b.settle.session = b.session := by
  have hqueue : b.queue = b.session.fetches.map Job.fetch := by
    rw [h.queue, h.session.idle]
    rfl
  obtain ⟨e, -, hsettle⟩ :=
    settle_eq_settled h.engine h.held h.parked hqueue (Session.tallied_of_idle h.session.idle)
  rw [hsettle]
  exact Session.settled_of_idle h.session.idle

end AtRest

/-- Nothing is under way, and never will be by itself.  The path at a position is on view, and a step of it. -/
structure OnPath (archive : Archive) (paths : List PathTrace) (path : PathTrace) (k : Int)
    (step : Option Int) (b : Workbench) : Prop where
  rest : b.AtRest archive
  settled : b.settle.session = b.session
  position : 0 ≤ k ∧ paths[k.toNat]? = some path
  shows : b.session.ShowsPath paths path
  mode : b.session.selection.mode = .path
  effectiveStep : b.session.selection.effectiveStep = some (openedStep step)

namespace AtRest

/-! ### Opening a path -/

/-- Where a path was selected, a step that is asked for is selected too, if it can be one. -/
theorem dispatchSome_highlightStep (h : b.AtRest archive) {s : Selection}
    (hselection : b.session.selection = s.opening k none) (step : Option Int) :
    ∃ b', b.dispatchSome (step.map NavigationEvent.highlightStep) = .ok b' ∧ b'.AtRest archive ∧
      b'.session.knownPaths = b.session.knownPaths ∧ b'.session.selection = s.opening k step := by
  cases step with
  | none => exact ⟨b, rfl, h, rfl, hselection⟩
  | some step =>
    have hevent : NavigationEvent.selects (.highlightStep step) = false := rfl
    obtain ⟨hdispatch, hrest⟩ := h.steer hevent
    refine ⟨_, ?_, hrest, b.session.knownPaths_navigate hevent, ?_⟩
    · rw [Option.map_some, dispatchSome, hdispatch]
    · show (b.session.selection.apply b.session.hasSummary (.highlightStep step)).1 = _
      rw [Selection.apply_highlightStep (by rw [hselection]; rfl), hselection]
      simp only [Selection.opening, openedStep]
      split <;> rfl

/-- A position at which there is a path is opened. -/
theorem openPath_eq_ok (h : b.AtRest archive) {paths : List PathTrace}
    (hpaths : b.session.knownPaths = some paths) (hk : 0 ≤ k) (hlt : k < paths.length)
    (step : Option Int) :
    ∃ b', b.openPath k step = .ok b' ∧ b'.AtRest archive ∧ b'.session.knownPaths = some paths ∧
      b'.session.selection = b.session.selection.opening k step := by
  obtain ⟨functionId, hfunction, -⟩ := Session.knownPaths_eq_some hpaths
  have hevent : NavigationEvent.selects (.selectPath k) = false := rfl
  have hselected : (b.navigate (.selectPath k)).2.session.selection = b.session.selection.opening k none :=
    Selection.apply_selectPath (by rw [hfunction]; rfl) hk b.session.hasSummary
  have hknown : (b.navigate (.selectPath k)).2.session.knownPaths = some paths :=
    (b.session.knownPaths_navigate hevent).trans hpaths
  obtain ⟨hdispatch, hrest⟩ := h.steer hevent
  obtain ⟨b', hstep, hrest', hknown', hselection⟩ := hrest.dispatchSome_highlightStep hselected step
  refine ⟨b', ?_, hrest', hknown'.trans hknown, hselection⟩
  -- The bounds test passes, and the two events follow one another.
  have hinside : (k < 0 || (paths.length : Int) ≤ k) = false := by
    simp [Int.not_lt.mpr hk, hlt]
  rw [openPath, h.session.ready.paths, hpaths]
  simp only [bind, Except.bind, Option.getD_some, hinside, Bool.false_eq_true, if_false, dispatchSome, hdispatch]
  exact hstep

/-- Any other position is refused. -/
theorem openPath_eq_error (h : b.AtRest archive)
    (hk : ¬ (0 ≤ k ∧ k < (b.session.knownPaths.getD []).length)) (step : Option Int) :
    b.openPath k step = .error (.pathOutOfRange k (b.session.knownPaths.getD []).length) := by
  have houtside : (k < 0 || ((b.session.knownPaths.getD []).length : Int) ≤ k) = true := by
    simp only [Bool.or_eq_true, decide_eq_true_eq]
    omega
  rw [openPath, h.session.ready.paths]
  simp only [bind, Except.bind, houtside, if_true]
  rfl

/-- Where a path and a step of it were selected, they are on view. -/
theorem onPath (h : b.AtRest archive) {paths : List PathTrace} {path : PathTrace} {s : Selection}
    (hpaths : b.session.knownPaths = some paths) (hselection : b.session.selection = s.opening k step)
    (hk : 0 ≤ k) (hpath : paths[k.toNat]? = some path) : b.OnPath archive paths path k step := by
  refine ⟨h, h.settle_session, ⟨hk, hpath⟩, ?_, ?_, ?_⟩
  · exact h.session.ready.showsPath hk hpaths (by rw [hselection]; rfl) hpath
  · rw [hselection]
    rfl
  · rw [hselection]
    rfl

end AtRest

/-- Where nothing is known of a function, there is no position at which it has a path. -/
theorem some_of_lt_length {known : Option (List PathTrace)} (hk : 0 ≤ k)
    (hlt : k < (known.getD []).length) :
    ∃ paths path, known = some paths ∧ k < paths.length ∧ paths[k.toNat]? = some path := by
  cases known with
  | none =>
    have hlt : k < 0 := hlt
    omega
  | some paths =>
    have hlt : k < paths.length := hlt
    have hbound : k.toNat < paths.length := by omega
    exact ⟨paths, paths[k.toNat], rfl, hlt, List.getElem?_eq_getElem hbound⟩

/-- If a path is opened at rest, it is on view. -/
theorem AtRest.onPath_of_openPath {b' : Workbench} (h : b.AtRest archive) (hopen : b.openPath k step = .ok b') :
    ∃ paths path, b'.OnPath archive paths path k step := by
  by_cases hinside : 0 ≤ k ∧ k < (b.session.knownPaths.getD []).length
  · obtain ⟨paths, path, hpaths, hlt, hpath⟩ := some_of_lt_length hinside.1 hinside.2
    obtain ⟨b'', hok, hrest, hknown, hselection⟩ := h.openPath_eq_ok hpaths hinside.1 hlt step
    obtain rfl : b'' = b' := Except.ok.inj (hok.symm.trans hopen)
    exact ⟨paths, path, hrest.onPath hknown hselection hinside.1 hpath⟩
  · rw [h.openPath_eq_error hinside] at hopen
    cases hopen

end Workbench

/-! ### Inspecting the path -/

namespace Session.Ready

variable {s : Session}

/-- The watched domains can be shown. -/
theorem exists_watch (h : s.Ready) : ∃ rows, s.watch = .ok rows := by
  unfold Session.watch Session.tracker
  split
  · rw [projected_of_undrilled h.undrilled]
    exact ⟨_, h.decorated _ _⟩
  · exact ⟨_, h.decorated _ _⟩

end Session.Ready

namespace Console

/-- A command asks for a path of a function of an archive, and for a step of it if one is given. -/
structure Asks (c : Context) (s : Settings) (archive : Archive) (config : Config) (spec : String) (k : Int)
    (step : Option Int) : Prop where
  engine : c.workspace.engine s.dumpFile = .ok (Engine.fresh archive)
  config : c.config = config
  function : s.function = spec
  path : s.path = some k
  step : s.step = step

variable {c : Context} {s : Settings}

/-- A session that is ready stays so at the last step. -/
theorem atLastStep_ready {session : Session} (h : session.Ready) (path : PathTrace) :
    (atLastStep s session path).Ready := by
  unfold atLastStep
  split
  · exact h.navigate _
  · exact h

/-- Where a path is on view, its inspection prints it and ends well. -/
theorem runInspect_ending {archive : Archive} {config : Config} {spec : String} {k : Int}
    {step : Option Int} {b : Workbench} (h : Asks c s archive config spec k step)
    (hopen : Workbench.openAt (Engine.fresh archive) config spec (some k) step = .ok b)
    {paths : List PathTrace} {path : PathTrace} (hpath : b.OnPath archive paths path k step) :
    (runInspect c s).ending = .exit 0 := by
  have hselected := hpath.shows.selectedPath_eq
  have hlast : (atLastStep s b.session path).Ready := atLastStep_ready hpath.rest.session.ready path
  obtain ⟨rows, hrows⟩ := hlast.exists_watch
  simp only [runInspect, Context.withSession, h.engine, h.config, h.function, h.path, h.step, bind, Except.bind,
    hopen, Context.withView, hselected, hlast.stepDiffs, hrows, Context.done]

end Console

namespace Workbench

variable {archive : Archive} {config : Config} {spec : String} {b : Workbench} {k : Int} {step : Option Int}

/-- **What is opened is the path that was asked for.** Whatever the archive, the settings, the function, the
    position and the step that are asked for: if a path is opened, then nothing is under way at the workbench, the
    path is the one at this position of those that are known, all views show it, and the step is the one that is
    asked for, or the first if it cannot be one or none is asked for; and the inspection of the path ends well.  It
    is opened if the function can be opened and the position is one of the known paths; else, the fault is that
    of opening the function, or the position is refused as a wrong value. -/
theorem openAt_onPath (archive : Archive) (config : Config) (spec : String) (k : Int) (step : Option Int) :
    (∀ b, openAt (Engine.fresh archive) config spec (some k) step = .ok b →
      (∃ paths path, b.OnPath archive paths path k step) ∧
        ∀ (c : Console.Context) (s : Console.Settings), Console.Asks c s archive config spec k step →
          (Console.runInspect c s).ending = .exit 0) ∧
      (∀ b₀, openFunction (Engine.fresh archive) config spec = .ok b₀ →
        ∃ known, b₀.session.paths = .ok known ∧
          if 0 ≤ k ∧ k < (known.getD []).length then
            ∃ b, openAt (Engine.fresh archive) config spec (some k) step = .ok b ∧ b.session.paths = .ok known
          else
            ∃ fault, openAt (Engine.fresh archive) config spec (some k) step = .error fault ∧
              fault = .pathOutOfRange k (known.getD []).length ∧ fault.kind = .value) ∧
      ∀ fault, openFunction (Engine.fresh archive) config spec = .error fault →
        openAt (Engine.fresh archive) config spec (some k) step = .error fault := by
  -- Opening at a path is opening the function, then the path.
  have hopenAt : openAt (Engine.fresh archive) config spec (some k) step =
      (openFunction (Engine.fresh archive) config spec).bind fun b => b.openPath k step := rfl
  refine ⟨?_, ?_, ?_⟩
  · intro b hopen
    obtain ⟨paths, path, hpath⟩ : ∃ paths path, b.OnPath archive paths path k step := by
      rw [hopenAt] at hopen
      cases hb₀ : openFunction (Engine.fresh archive) config spec with
      | error fault =>
        rw [hb₀] at hopen
        cases hopen
      | ok b₀ =>
        rw [hb₀] at hopen
        exact (atRest_openFunction hb₀).onPath_of_openPath hopen
    exact ⟨⟨paths, path, hpath⟩, fun c s hasks => Console.runInspect_ending hasks hopen hpath⟩
  · intro b₀ hb₀
    have hrest := atRest_openFunction hb₀
    refine ⟨b₀.session.knownPaths, hrest.session.ready.paths, ?_⟩
    rw [hopenAt, hb₀]
    split
    · -- Within bounds, selecting the path does not touch the list it is taken from.
      rename_i hinside
      obtain ⟨paths, path, hpaths, hlt, -⟩ := some_of_lt_length hinside.1 hinside.2
      obtain ⟨b, hok, hrest', hknown, -⟩ := hrest.openPath_eq_ok hpaths hinside.1 hlt step
      refine ⟨b, hok, ?_⟩
      rw [hrest'.session.ready.paths, hknown, hpaths]
    · rename_i houtside
      exact ⟨_, hrest.openPath_eq_error houtside step, rfl, rfl⟩
  · intro fault hfault
    rw [hopenAt, hfault]
    rfl

/-- The text of an archive of a function with two paths. -/
def twoPathsText : String :=
  "\x7b\"contracts\": [\x7b\"id\": 1, \"name\": \"Vault\", \"functions\": [\x7b\"id\": 10\x7d]\x7d]," ++
    " \"analyses\": \x7b\"Vault\": \x7b\"functions\": [" ++
      "\x7b\"functionId\": 10, \"paths\": [\x7b\x7d, \x7b\x7d]\x7d]\x7d\x7d\x7d"

/-- A working directory that holds this archive. -/
def twoPathsContext : Console.Context where
  workspace := Console.Workspace.ofFiles [("v.json", twoPathsText)]
  now := ""

/-- Its second path is asked for, and a step of it. -/
def secondPathSettings : Console.Settings where
  dumpFile := "v.json"
  function := "10"
  path := some 1
  step := some 3

/-- The archive is read, and the second path is opened at step 3. -/
theorem exists_openAt_secondPath :
    ∃ archive b, Archive.ofFile twoPathsText = .ok archive ∧
      openAt (Engine.fresh archive) {} "10" (some 1) (some 3) = .ok b := by
  have hopens : ((Archive.ofFile twoPathsText).bind fun archive =>
      openAt (Engine.fresh archive) {} "10" (some 1) (some 3)).isOk = true := by
    decide +kernel
  obtain ⟨b, hbind⟩ := Except.isOk_iff_exists_eq_ok.mp hopens
  cases harchive : Archive.ofFile twoPathsText with
  | error fault =>
    rw [harchive] at hbind
    cases hbind
  | ok archive =>
    rw [harchive] at hbind
    exact ⟨archive, b, rfl, hbind⟩

/-- These settings ask for it. -/
theorem asks_secondPathSettings {archive : Archive} (harchive : Archive.ofFile twoPathsText = .ok archive) :
    Console.Asks twoPathsContext secondPathSettings archive {} "10" 1 (some 3) := by
  have hload : twoPathsContext.workspace.load "v.json" = .ok twoPathsText := by
    decide +kernel
  obtain ⟨bytes, hbytes⟩ : ∃ bytes, Text.pathBytes "v.json" = .ok bytes := ⟨_, rfl⟩
  refine ⟨?_, rfl, rfl, rfl, rfl⟩
  show twoPathsContext.workspace.engine "v.json" = _
  simp only [Console.Workspace.engine, bind, Except.bind, hbytes, Except.mapError, hload, harchive, Except.map]

/-- The second path is on view, and the command ends with exit code 0. -/
theorem openAt_onPath_of_secondPath :
    ∃ archive b, Archive.ofFile twoPathsText = .ok archive ∧
      openAt (Engine.fresh archive) {} "10" (some 1) (some 3) = .ok b ∧
      (∃ paths path, b.OnPath archive paths path 1 (some 3)) ∧
      Console.Asks twoPathsContext secondPathSettings archive {} "10" 1 (some 3) ∧
      (Console.runInspect twoPathsContext secondPathSettings).ending = .exit 0 := by
  obtain ⟨archive, b, harchive, hopen⟩ := exists_openAt_secondPath
  obtain ⟨hpath, hends⟩ := (openAt_onPath archive {} "10" 1 (some 3)).1 b hopen
  have hasks := asks_secondPathSettings harchive
  exact ⟨archive, b, harchive, hopen, hpath, hasks, hends twoPathsContext secondPathSettings hasks⟩

end Workbench

end RangeAudit
