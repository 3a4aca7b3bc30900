import RangeAudit.Proofs.Archive.Answers
import RangeAudit.Proofs.Interleaving.BackgroundResults
import RangeAudit.Proofs.Session.Arrival
import RangeAudit.Proofs.Session.SelectedPath

namespace RangeAudit

/-!
# Coarse paths in the place of detailed ones

If no detailed paths were exported for a function, the engine gives its coarse paths for them: those in the
analysis of the first contract that lists the function.  The session shows the paths of the analysis in use until
the detailed ones come, and finds the owner of the function on its own.  The two agree, so it cannot be seen when
the answer comes.

* `Archive.detail_eq_coarse` — what the engine gives for detailed paths that were not exported;
* `Engine.afterCalls`, `Engine.coarse_afterCalls` — an engine that was asked before, in whatever way;
* `World.Aside` — moves that leave the selected function and the loaded data alone;
* `World.Opens`, `World.opens_dispatch`, `World.opens_step` — a function is being opened, and no other call is in
  flight: the invariant, and the step lemmas;
* `World.Opens.paths_eq` — when the call is over, the paths of the analysis are shown, whatever has come;
* `World.OpensAlone`, `World.OpensAlone.paths_eq`, `World.OpensAlone.selectPath` — such a run as a whole, what is
  shown after it, and that a path may be selected then;
* `World.coarse_paths_shown` — hence the fallback cannot be seen.
-/

open Wire (Value)

/-! ### What the engine gives -/

/-- The coarse paths of a function, where its owner was analysed. -/
theorem Archive.coarsePaths_eq {archive : Archive} {functionId : Int} {owner : Contract} {a : Analysis}
    {f : FunctionAnalysis} (howner : Contract.ownerOf? archive.contracts functionId = some owner)
    (hanalysis : archive.analysis owner.name = .ok a) (hfunction : a.function? functionId = some f) :
    archive.coarsePaths functionId = .ok f.paths := by
  have hhas : archive.analyses.has owner.name = true := by
    cases hfind : archive.analyses.find? owner.name with
    | none => simp [Archive.analysis, hfind] at hanalysis
    | some v => simp [Entries.has, hfind]
  simp [coarsePaths, howner, hhas, hanalysis, Except.map, Analysis.pathsOf, hfunction]

/-- They are given for the detailed ones, if none were exported. -/
theorem Archive.detail_eq_coarse {archive : Archive} {functionId : Int}
    (h : archive.exportedDetail? functionId = none) :
    archive.detail functionId = archive.coarsePaths functionId := by
  rw [Archive.detail, h]

/-- An engine after calls that were made one after the other, each by the name of a method and a list of
    arguments. -/
def Engine.afterCalls (e : Engine) (calls : List (String × List Value)) : Engine :=
  calls.foldl (fun e c => (e.call c.1 c.2).2) e

/-- Whatever methods are called, the engine keeps what its archive answers. -/
theorem Engine.Recalls.afterCalls {archive : Archive} {e : Engine} (h : e.Recalls archive)
    (calls : List (String × List Value)) : (e.afterCalls calls).Recalls archive := by
  induction calls generalizing e with
  | nil => exact h
  | cons c rest ih => exact ih (h.call (recalls_fresh archive) c.1 c.2).2

/-- Whatever an engine was asked before, it answers the coarse paths for the detailed ones. -/
theorem Engine.coarse_afterCalls {archive : Archive} {functionId : Int} {owner : Contract} {a : Analysis}
    {f : FunctionAnalysis} (hexported : archive.exportedDetail? functionId = none)
    (howner : Contract.ownerOf? archive.contracts functionId = some owner)
    (hanalysis : archive.analysis owner.name = .ok a) (hfunction : a.function? functionId = some f)
    (calls : List (String × List Value)) :
    let e := (fresh archive).afterCalls calls
    (e.detail functionId).1 = .ok f.paths ∧ (e.paths functionId).1 = .ok f.paths ∧
      (e.analysis owner.name).1 = .ok a := by
  intro e
  have hrecalls : e.Recalls archive := (recalls_fresh archive).afterCalls calls
  have hcoarse : archive.coarsePaths functionId = .ok f.paths :=
    Archive.coarsePaths_eq howner hanalysis hfunction
  refine ⟨?_, ?_, ?_⟩
  · exact (hrecalls.detail functionId).1.trans ((Archive.detail_eq_coarse hexported).trans hcoarse)
  · exact (hrecalls.paths functionId).1.trans hcoarse
  · exact (hrecalls.analysis owner.name).1.trans hanalysis

/-! ### Opening a function while no other call is in flight -/

/-- Does a move leave alone what is selected and loaded?  Answers come, views are read, and events are applied
    that select neither a contract nor a function. -/
def Move.isAside : Move → Bool
  | .issue .load => false
  | .issue (.dispatch event) => !event.selects
  | .unload => false
  | .navigate event => !event.selects
  | .reply _ _ => true
  | .deliver _ _ => true
  | .read _ => true

/-- Does a move only bring an answer to a background fetch, or read a view? -/
def Move.isBackground : Move → Bool
  | .deliver _ _ => true
  | .read _ => true
  | _ => false

namespace World

/-- A move that leaves alone what is selected and loaded, at a deterministic engine, and that brings no fault to a
    waiting call. -/
structure Aside (engine : Oracle) (w : World) (m : Move) : Prop where
  honest : m.HonestTo engine
  succeeds : w.succeeds m = true
  aside : m.isAside = true

/-- A move in the background leaves a function that is being opened alone. -/
theorem aside_of_isBackground {engine : Oracle} {m : Move} (hhonest : m.HonestTo engine)
    (h : m.isBackground = true) (w : World) : Aside engine w m := by
  cases m with
  | deliver fetch oracle => exact ⟨hhonest, rfl, rfl⟩
  | read view => exact ⟨hhonest, rfl, rfl⟩
  | _ => cases h

/-- A function is being opened in its owner, and no other call is in flight.  The call waits for the analysis of
    the owner; or this is in use and the function is selected, and the call waits for a source or is over. -/
structure Opens (contracts : List Contract) (owner : Contract) (a : Analysis) (functionId : Int)
    (w : World) : Prop where
  held : w.session.contracts = some contracts
  stage : w.calls = [.ownerAnalysis owner functionId] ∨
    (w.session.selection.functionId = some functionId ∧ w.session.loaded = some ⟨owner.name, a⟩ ∧
      ∀ call ∈ w.calls, ∃ nodeId node requests, call = .source nodeId node requests)

variable {engine : Oracle} {contracts : List Contract} {owner : Contract} {a : Analysis} {functionId : Int}
  {w : World} {m : Move}

/-- A function that is opened when the analysis of its owner is in use waits for a source. -/
theorem opens_openFunction {s : Session} (hcontracts : s.contracts = some contracts)
    (hloaded : s.loaded = some ⟨owner.name, a⟩) :
    Opens contracts owner a functionId
      { session := (s.openFunction (some owner) functionId).2
        calls := (s.openFunction (some owner) functionId).1.pending } := by
  refine ⟨(Session.openFunction_contracts ..).trans hcontracts, .inr ⟨?_, ?_, ?_⟩⟩
  · exact Session.openFunction_functionId ..
  · exact (Session.openFunction_loaded ..).trans hloaded
  · intro call hcall
    have hcall : call ∈ (s.openFunction (some owner) functionId).1.pending := hcall
    rw [Session.openFunction_eq_perform] at hcall
    exact (Session.pending_perform hcall).1

/-- Where the selection of a function is dispatched and no call waits, the function is being opened. -/
theorem opens_dispatch (hcalls : w.calls = []) (hcontracts : w.session.contracts = some contracts)
    (hprovenance : w.session.Provenance engine) {event : NavigationEvent}
    (hevent : event.function? = some functionId)
    (howner : Contract.ownerOf? contracts functionId = some owner) (hanalyzable : owner.analyzable = true)
    (hanalysis : engine (.analysis owner.name) = .ok a) :
    (w.step (.issue (.dispatch event))).Opens contracts owner a functionId := by
  rw [step, Session.begin_function hcontracts hevent, hcalls, List.nil_append, Session.selectFunction, howner]
  dsimp only
  split
  · exact ⟨hcontracts, .inl rfl⟩
  · rename_i hneeds
    -- The analysis that need not be fetched is in use, and is the engine's.
    obtain ⟨a', ha', hloaded⟩ : ∃ a', engine (.analysis owner.name) = .ok a' ∧
        w.session.loaded = some ⟨owner.name, a'⟩ :=
      hprovenance.loaded_of_analysed hanalyzable (by rw [Session.analysed, if_neg hneeds])
    obtain rfl : a' = a := Except.ok.inj (ha'.symm.trans hanalysis)
    exact opens_openFunction hcontracts hloaded

/-! ### Step lemmas -/

/-- An event that selects neither a contract nor a function is over at once, and no call waits for it. -/
theorem step_steer (hcontracts : w.session.contracts = some contracts) {event : NavigationEvent}
    (hevent : event.selects = false) :
    w.step (.issue (.dispatch event)) = { w with session := (w.session.navigate event).1 } := by
  rw [step, Session.begin_steer hcontracts hevent, Turn.pending, List.append_nil]

/-- It leaves the selected function. -/
theorem opens_navigate (h : w.Opens contracts owner a functionId) {event : NavigationEvent}
    (hevent : event.selects = false) :
    Opens contracts owner a functionId { w with session := (w.session.navigate event).1 } := by
  refine ⟨h.held, ?_⟩
  rcases h.stage with hwaits | ⟨hselected, hloaded, hsources⟩
  · exact .inl hwaits
  · have hsame : (w.session.navigate event).1.selection.functionId = w.session.selection.functionId :=
      (w.session.selection.apply_of_not_selects w.session.hasSummary hevent).2
    exact .inr ⟨hsame.trans hselected, hloaded, hsources⟩

/-- An answer reaches the only call that waits, or none. -/
theorem step_reply_only {call : Waiting} (hcalls : w.calls = [call]) (k : Nat) (oracle : Oracle) :
    w.step (.reply k oracle) = w ∨
      (w.calls[k]? = some call ∧ w.step (.reply k oracle) =
        { session := (w.session.resume call (oracle call.query)).2
          calls := (w.session.resume call (oracle call.query)).1.pending }) := by
  cases k with
  | zero =>
    refine .inr ⟨by rw [hcalls, List.getElem?_cons_zero], ?_⟩
    simp only [step, hcalls, List.getElem?_cons_zero, List.take_zero, List.nil_append, List.drop_succ_cons,
      List.drop_nil, List.append_nil]
  | succ k =>
    exact .inl (step_reply_none (by rw [hcalls, List.getElem?_cons_succ, List.getElem?_nil]) oracle)

/-- When the analysis of the owner comes, the function is selected; when a source comes, it stays so. -/
theorem opens_reply (hanalysis : engine (.analysis owner.name) = .ok a)
    (h : w.Opens contracts owner a functionId) {k : Nat} {oracle : Oracle}
    (hm : w.Driven engine (.reply k oracle)) :
    (w.step (.reply k oracle)).Opens contracts owner a functionId := by
  rcases h.stage with hwaits | ⟨hselected, hloaded, hsources⟩
  · rcases step_reply_only hwaits k oracle with hsame | ⟨hcall, hstep⟩
    · rw [hsame]
      exact h
    · -- The answer is no fault, so it is the engine's analysis.
      have hanswer : oracle (.analysis owner.name) = .ok a := by
        have hsucceeds : (oracle (.analysis owner.name)).isOk = true := by
          simpa only [succeeds, hcall, Option.all_some] using hm.2.1
        obtain ⟨v, hv⟩ := Except.isOk_iff_exists_eq_ok.mp hsucceeds
        have hengine : engine (.analysis owner.name) = .ok v := hm.1 _ v hv
        rw [hv, ← hengine, hanalysis]
      rw [hstep, show oracle (Waiting.ownerAnalysis owner functionId).query = .ok a from hanswer]
      exact opens_openFunction (s := w.session.useAnalysis owner.name a) h.held rfl
  · cases hm.replyStep with
    | unheard hk hsame =>
      rw [hsame]
      exact h
    | resumed call v hk hcall hsession hcalls =>
      obtain ⟨nodeId, node, requests, rfl⟩ := hsources call hcall
      obtain ⟨display, memo, hresume⟩ := w.session.resume_source_eq nodeId node requests v
      rw [hresume] at hsession hcalls
      refine ⟨?_, .inr ⟨?_, ?_, ?_⟩⟩
      · rw [hsession, Session.perform_contracts]
        exact h.held
      · rw [hsession, Session.perform_selection]
        exact hselected
      · rw [hsession, Session.perform_loaded]
        exact hloaded
      · intro other hother
        rcases hcalls other hother with hold | hnew
        · exact hsources other hold
        · exact (Session.pending_perform hnew).1

/-- **Step lemma.** Moves that leave alone what is selected and loaded go on with the opening of the function. -/
theorem opens_step (hanalysis : engine (.analysis owner.name) = .ok a) (w : World) (m : Move)
    (h : w.Opens contracts owner a functionId) (hm : Aside engine w m) :
    (w.step m).Opens contracts owner a functionId := by
  cases m with
  | issue command =>
    cases command with
    | load => cases hm.aside
    -- Events that select are excluded; the others navigate at the selected function.
    | dispatch event =>
      have hevent : event.selects = false := by simpa [Move.isAside] using hm.aside
      rw [step_steer h.held hevent]
      exact opens_navigate h hevent
  | unload => cases hm.aside
  | navigate event => exact opens_navigate h (by simpa [Move.isAside] using hm.aside)
  | reply k oracle => exact opens_reply hanalysis h ⟨hm.honest, hm.succeeds, rfl⟩
  | deliver fetch oracle =>
    refine ⟨(Session.settle_contracts ..).trans h.held, ?_⟩
    simp only [step, Session.settle_selection, Session.settle_loaded]
    exact h.stage
  | read view =>
    refine ⟨(Session.read_contracts ..).trans h.held, ?_⟩
    simp only [step, Session.read_selection, Session.read_loaded]
    exact h.stage

/-! ### While the function is open -/

/-- When the call is over, the function is selected, and the paths of the analysis are shown: if detailed ones have
    come, they are the same. -/
theorem Opens.paths_eq (h : w.Opens contracts owner a functionId) (hidle : w.calls = [])
    (hprovenance : w.session.Provenance engine) {f : FunctionAnalysis}
    (hfunction : a.function? functionId = some f)
    (hdetail : engine (.detail functionId) = .ok f.paths) :
    w.session.selection.functionId = some functionId ∧ w.session.paths = .ok (some f.paths) := by
  rcases h.stage with hwaits | ⟨hselected, hloaded, -⟩
  · rw [hidle] at hwaits
    cases hwaits
  · refine ⟨hselected, ?_⟩
    -- Whether the background detail has come or not, the paths are the analysis' own.
    cases hheld : w.session.holds .detail functionId with
    | false =>
      rw [Session.paths_of_not_holds h.held hloaded hselected hheld, hfunction]
      rfl
    | true =>
      obtain ⟨paths, hanswer, hpaths⟩ := hprovenance.paths_of_holds hselected hheld
      rw [hdetail, Except.ok.injEq] at hanswer
      rw [hpaths, hanswer]

/-- Answers to background fetches and readings of views leave the calls and the selection. -/
theorem background_run {moves : List Move} (h : ∀ m ∈ moves, m.isBackground = true) (w : World) :
    (w.run moves).calls = w.calls ∧ (w.run moves).session.selection = w.session.selection := by
  refine run_invariant (P := fun _ m => m.isBackground = true)
    (fun v => v.calls = w.calls ∧ v.session.selection = w.session.selection) ?_ ⟨rfl, rfl⟩
    (along_of_forall h w)
  rintro v m ⟨hcalls, hselection⟩ hm
  cases m with
  | deliver fetch oracle => exact ⟨hcalls, (Session.settle_selection ..).trans hselection⟩
  | read view => exact ⟨hcalls, (Session.read_selection ..).trans hselection⟩
  | _ => cases hm

/-- One of the later moves of a run is done at the end of those before it. -/
theorem run_append_cons_append (w : World) (before moves late : List Move) (m n : Move) :
    w.run (before ++ m :: (moves ++ n :: late)) = ((w.run (before ++ m :: moves)).step n).run late := by
  rw [← List.cons_append, ← List.append_assoc, run_append, run_cons]

/-- After any run a function is opened while no other call is in flight, and the call has returned.  Meanwhile and
    since then nothing was selected or loaded. -/
structure OpensAlone (engine : Oracle) (functionId : Int) (config : Config) (before : List Move)
    (event : NavigationEvent) (moves : List Move) : Prop where
  honest : ∀ m ∈ before, m.HonestTo engine
  loaded : ((fresh config).run before).session.contracts.isSome
  idle : ((fresh config).run before).calls = []
  selects : event.function? = some functionId
  aside : (((fresh config).run before).step (.issue (.dispatch event))).Along (Aside engine) moves
  returned : ((fresh config).run (before ++ .issue (.dispatch event) :: moves)).calls = []

namespace OpensAlone

variable {config : Config} {before moves : List Move} {event : NavigationEvent}

/-- All answers in such a run are the engine's. -/
theorem honest_run (h : OpensAlone engine functionId config before event moves) :
    ∀ m ∈ before ++ .issue (.dispatch event) :: moves, m.HonestTo engine := by
  intro m hm
  rcases List.mem_append.mp hm with hbefore | hrest
  · exact h.honest m hbefore
  · rcases List.mem_cons.mp hrest with rfl | hmoves
    · exact trivial
    · exact h.aside.forall_mem (fun _ _ hm => hm.honest) m hmoves

/-- In such a run the function is being opened, or is open. -/
theorem opens (h : OpensAlone engine functionId config before event moves)
    (hcontracts : engine .contracts = .ok contracts)
    (howner : Contract.ownerOf? contracts functionId = some owner) (hanalyzable : owner.analyzable = true)
    (hanalysis : engine (.analysis owner.name) = .ok a) :
    ((fresh config).run (before ++ .issue (.dispatch event) :: moves)).Opens contracts owner a
      functionId := by
  have hrooted := (detailsSummarised_run config h.honest).rooted
  obtain ⟨held, hheld⟩ := Option.isSome_iff_exists.mp h.loaded
  -- The session looks for the owner among the contracts that the engine has.
  obtain rfl : held = contracts := Except.ok.inj ((hrooted.contracts held hheld).symm.trans hcontracts)
  rw [run_append, run_cons]
  exact run_invariant (Opens held owner a functionId) (opens_step hanalysis)
    (opens_dispatch h.idle hheld hrooted.provenance h.selects howner hanalyzable hanalysis) h.aside

/-- When the function is open, the paths in the analysis of its owner are shown. -/
theorem paths_eq (h : OpensAlone engine functionId config before event moves)
    (hcontracts : engine .contracts = .ok contracts)
    (howner : Contract.ownerOf? contracts functionId = some owner) (hanalyzable : owner.analyzable = true)
    (hanalysis : engine (.analysis owner.name) = .ok a) {f : FunctionAnalysis}
    (hfunction : a.function? functionId = some f) (hdetail : engine (.detail functionId) = .ok f.paths) :
    let s := ((fresh config).run (before ++ .issue (.dispatch event) :: moves)).session
    s.contracts = some contracts ∧ s.selection.functionId = some functionId ∧
      s.paths = .ok (some f.paths) := by
  intro s
  have hopens := h.opens hcontracts howner hanalyzable hanalysis
  have hprovenance := (detailsSummarised_run config h.honest_run).rooted.provenance
  exact ⟨hopens.held, hopens.paths_eq h.returned hprovenance hfunction hdetail⟩

/-- A path may be selected then, and answers to background fetches may come. -/
theorem selectPath (h : OpensAlone engine functionId config before event moves)
    (hcontracts : ((fresh config).run (before ++ .issue (.dispatch event) :: moves)).session.contracts =
      some contracts) (k : Int) {late : List Move}
    (hlate : ∀ m ∈ late, m.HonestTo engine ∧ m.isBackground = true) :
    OpensAlone engine functionId config before event
        (moves ++ .issue (.dispatch (.selectPath k)) :: late) ∧
      ((fresh config).run (before ++ .issue (.dispatch event) ::
          (moves ++ .issue (.dispatch (.selectPath k)) :: late))).session.selection =
        (((fresh config).run (before ++ .issue (.dispatch event) :: moves)).session.navigate
          (.selectPath k)).1.selection := by
  have hreturned := h.returned
  have hrun := run_append_cons_append (fresh config) before moves late (.issue (.dispatch event))
    (.issue (.dispatch (.selectPath k)))
  -- The selection is one more move that no request waits for, so `late` leaves it as it is.
  generalize (fresh config).run (before ++ .issue (.dispatch event) :: moves) = w at *
  have hstep := step_steer hcontracts (show NavigationEvent.selects (.selectPath k) = false from rfl)
  obtain ⟨hcalls, hselection⟩ := background_run (fun m hm => (hlate m hm).2)
    (w.step (.issue (.dispatch (.selectPath k))))
  refine ⟨{ h with aside := ?_, returned := ?_ }, ?_⟩
  · refine (along_append _ _ _ _).mpr ⟨h.aside, ⟨trivial, rfl, rfl⟩, ?_⟩
    exact (along_of_forall hlate _).imp fun v m hm => aside_of_isBackground hm.1 hm.2 v
  · rw [hrun, hcalls, hstep]
    exact hreturned
  · rw [hrun, hselection, hstep]

end OpensAlone

/-- **The fallback cannot be seen.** No detailed paths were exported for a function, and the first contract that
    lists it can be analysed, in an analysis that has the function.  Then, whatever the engine was asked before,
    it answers the paths of this analysis for the detailed and for the coarse paths of the function.  And in every
    session in which the function is opened while no other call is in flight, these are the paths that are
    shown once the call has returned, whichever background answers have come.  If one of them is selected then, it
    and what belongs to it are shown, and go on to be when more answers come. -/
theorem coarse_paths_shown {archive : Archive} {functionId : Int} {owner : Contract} {a : Analysis}
    {f : FunctionAnalysis} (hexported : archive.exportedDetail? functionId = none)
    (howner : Contract.ownerOf? archive.contracts functionId = some owner)
    (hanalyzable : owner.analyzable = true) (hanalysis : archive.analysis owner.name = .ok a)
    (hfunction : a.function? functionId = some f) :
    (∀ calls : List (String × List Value),
      let e := (Engine.fresh archive).afterCalls calls
      (e.detail functionId).1 = .ok f.paths ∧ (e.paths functionId).1 = .ok f.paths ∧
        (e.analysis owner.name).1 = .ok a) ∧
      ∀ (config : Config) (before : List Move) (event : NavigationEvent) (moves : List Move),
        OpensAlone archive.oracle functionId config before event moves →
        let w := (fresh config).run (before ++ .issue (.dispatch event) :: moves)
        w.session.paths = .ok (some f.paths) ∧
          ∀ (k : Nat) (path : PathTrace), f.paths[k]? = some path →
            ∀ late : List Move, (∀ m ∈ late, m.HonestTo archive.oracle ∧ m.isBackground = true) →
              ((w.step (.issue (.dispatch (.selectPath k)))).run late).session.ShowsPath f.paths path := by
  refine ⟨Engine.coarse_afterCalls hexported howner hanalysis hfunction, ?_⟩
  intro config before event moves h w
  have hengine : archive.oracle = archive.answer := archive.oracle_eq_answer
  have hcontracts : archive.oracle .contracts = .ok archive.contracts := by
    rw [hengine]
    rfl
  have hanswer : archive.oracle (.analysis owner.name) = .ok a := by
    rw [hengine]
    exact hanalysis
  have hdetail : archive.oracle (.detail functionId) = .ok f.paths := by
    rw [hengine]
    exact (Archive.detail_eq_coarse hexported).trans (Archive.coarsePaths_eq howner hanalysis hfunction)
  obtain ⟨hheld, hselected, hpaths⟩ := h.paths_eq hcontracts howner hanalyzable hanswer hfunction hdetail
  refine ⟨hpaths, ?_⟩
  intro k path hpath late hlate
  -- The run goes on with the selection of the path, and the function is open as before.
  obtain ⟨hlater, hselection⟩ := h.selectPath hheld k hlate
  obtain ⟨hheld', -, hpaths'⟩ := hlater.paths_eq hcontracts howner hanalyzable hanswer hfunction hdetail
  have hready := ready_run config (before ++ .issue (.dispatch event) ::
    (moves ++ .issue (.dispatch (.selectPath k)) :: late)) (by rw [hheld']; rfl)
  rw [run_append_cons_append] at hselection hpaths' hready
  have hknown := (Session.eq_knownPaths_of_paths_ok hpaths').symm
  refine hready.showsPath (Int.natCast_nonneg k) hknown ?_ hpath
  rw [hselection]
  exact Session.pathIndex_navigate (by rw [hselected]; rfl) (Int.natCast_nonneg k)

/-- Two contracts of one name list the same function; no detailed paths were exported for it. -/
def archiveOfTwoVaults : Archive :=
  { archiveOfThreePaths with
    contracts :=
      [{ id := 1, name := "Vault", functions := [{ id := 10, name := "deposit" }] },
        { id := 2, name := "Vault", functions := [{ id := 10, name := "deposit" }] }] }

/-- A path is asked for before the function is selected, to no effect.  The analysis and the source come, and a view
    is read in between.  The control-flow graph has come then, but the detailed paths are still out. -/
def openingOfDeposit : List Move :=
  let engine := archiveOfTwoVaults.oracle
  [.issue (.dispatch (.selectPath 0)), .reply 0 engine, .read .lines, .reply 0 engine,
    .deliver ⟨0, .flowGraph, 10⟩ engine]

/-- No other call is made, and a path is asked for in between. -/
theorem opensAlone_openingOfDeposit :
    OpensAlone archiveOfTwoVaults.oracle 10 {} [.issue .load, .reply 0 archiveOfTwoVaults.oracle]
      (.selectFunction 10 (some 2)) openingOfDeposit := by
  refine ⟨?_, ?_, ?_, rfl, ?_, ?_⟩
  · simp [Move.HonestTo, Move.Tells]
  · decide +kernel
  · decide +kernel
  · refine ⟨?_, ?_, ?_, ?_, ?_, trivial⟩ <;>
      exact ⟨by simp [Move.HonestTo, Move.Tells], by decide +kernel, rfl⟩
  · decide +kernel

/-- Two contracts have one name, and the paths are those of the analysis of the first. -/
theorem coarse_paths_shown_of_twoVaults :
    ∃ owner a f, archiveOfTwoVaults.exportedDetail? 10 = none ∧
      Contract.ownerOf? archiveOfTwoVaults.contracts 10 = some owner ∧ owner.analyzable = true ∧
      archiveOfTwoVaults.analysis owner.name = .ok a ∧ a.function? 10 = some f ∧ f.paths = threePaths ∧
      (∀ calls : List (String × List Value),
        let e := (Engine.fresh archiveOfTwoVaults).afterCalls calls
        (e.detail 10).1 = .ok threePaths ∧ (e.paths 10).1 = .ok threePaths ∧
          (e.analysis owner.name).1 = .ok a) ∧
      let w := (fresh {}).run ([.issue .load, .reply 0 archiveOfTwoVaults.oracle] ++
        .issue (.dispatch (.selectFunction 10 (some 2))) :: openingOfDeposit)
      w.session.paths = .ok (some threePaths) ∧
        ∀ (k : Nat) (path : PathTrace), threePaths[k]? = some path →
          ∀ late : List Move,
            (∀ m ∈ late, m.HonestTo archiveOfTwoVaults.oracle ∧ m.isBackground = true) →
            ((w.step (.issue (.dispatch (.selectPath k)))).run late).session.ShowsPath threePaths path := by
  -- The coarse analysis is evaluated once, to its list of paths.
  have hfound : (archiveOfTwoVaults.analysis "Vault").toOption.map (fun a =>
      (a.function? 10).map FunctionAnalysis.paths) = some (some threePaths) := by
    decide +kernel
  obtain ⟨a, ha, hpaths⟩ := Option.map_eq_some_iff.mp hfound
  obtain ⟨f, hfunction, hthree⟩ := Option.map_eq_some_iff.mp hpaths
  have hanalysis : archiveOfTwoVaults.analysis "Vault" = .ok a := Except.toOption_eq_some.mp ha
  have hexported : archiveOfTwoVaults.exportedDetail? 10 = none := rfl
  have howner : Contract.ownerOf? archiveOfTwoVaults.contracts 10 =
      some { id := 1, name := "Vault", functions := [{ id := 10, name := "deposit" }] } := by
    decide
  obtain ⟨hengine, hsessions⟩ := coarse_paths_shown hexported howner rfl hanalysis hfunction
  rw [hthree] at hengine hsessions
  exact ⟨_, a, f, hexported, howner, rfl, hanalysis, hfunction, hthree, hengine,
    hsessions {} _ _ _ opensAlone_openingOfDeposit⟩

end World

end RangeAudit
