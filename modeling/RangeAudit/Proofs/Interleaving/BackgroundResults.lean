import RangeAudit.Proofs.Interleaving.DetailRequests
import RangeAudit.Proofs.Session.Visit

namespace RangeAudit

/-!
# No background result is lost

While the selection stays in one contract, nothing else than sources and the data of functions is waited for.
The data of the selected function are fetched in the background, and an answer is dropped if another function
is selected when it comes.  Whoever selects the function again asks for its data again, so at any time the data
of the selected function are held, or a fetch for them is out, or a waiting call has still to send one out.

* `Session.Secured` — held, out, or still to be sent out;
* `Session.secured_perform` — no data that are requested are lost when requests are made;
* `Session.Secured.settle` — the answer to a fetch for the selected function is taken over, and that to any
  other fetch takes nothing away;
* `World.StaysIn` — moves that keep the selection in a contract, none of which brings a fault;
* `World.ResultsDue`, `World.resultsDue_step` — the invariant of a world, and the step lemma;
* `World.background_results_arrive` — hence, when nothing is outstanding, the data of the selected function are
  there.
-/

/-- The request for which a fetch is sent out. -/
def FetchAim.request : FetchAim → Int → Request
  | flowGraph, functionId => .flowGraph functionId
  | detail, functionId => .pathDetail functionId

/-- Are the data called for when a function is selected?  The details only if there is a summary. -/
def Analysis.callsFor (a : Analysis) : FetchAim → Int → Bool
  | .flowGraph, _ => true
  | .detail, functionId => (a.summary? functionId).isSome

/-- The selection of a function selects something. -/
theorem NavigationEvent.selects_of_function {event : NavigationEvent} {functionId : Int}
    (h : event.function? = some functionId) : event.selects = true := by
  cases event <;> cases h <;> rfl

/-- What the analysis calls for is requested when the function is opened. -/
theorem Selection.request_mem_functionRequests {hasSummary : Int → Bool} {a : Analysis}
    {functionId : Int} (hsummary : hasSummary functionId = (a.summary? functionId).isSome)
    {aim : FetchAim} (h : a.callsFor aim functionId = true) :
    aim.request functionId ∈ functionRequests hasSummary functionId := by
  cases aim with
  | flowGraph => simp [functionRequests, FetchAim.request]
  | detail =>
    have hhas : hasSummary functionId = true := hsummary.trans h
    simp [functionRequests, FetchAim.request, hhas]

/-- An entry is not lost when another is put. -/
theorem Entries.has_put_of_has {κ ν : Type} [DecidableEq κ] {entries : Entries κ ν} {key : κ}
    (h : entries.has key = true) (other : κ) (value : ν) : (entries.put other value).has key = true := by
  rw [Entries.has, Entries.find?_put]
  split
  · rfl
  · exact h

namespace Session

variable {s t : Session} {calls more : List Waiting} {aim : FetchAim} {functionId : Int}

/-! ### Data that are not lost -/

/-- Are the data of a function held that a fetch is after? -/
def holds (s : Session) : FetchAim → Int → Bool
  | .flowGraph, functionId => s.flowGraphs.has functionId
  | .detail, functionId => s.details.has functionId

/-- The data of a function are held, or a fetch for them is out, or a waiting call has still to send one out. -/
inductive Secured (s : Session) (calls : List Waiting) (aim : FetchAim) (functionId : Int) : Prop
  | held (h : s.holds aim functionId = true)
  | out (ticket : Nat) (h : ⟨ticket, aim, functionId⟩ ∈ s.fetches)
  | asked (call : Waiting) (hcall : call ∈ calls) (h : aim.request functionId ∈ call.requests)

/-- Data are not lost while what is held is kept, what is out stays out, and what a call asks for is not
    lost. -/
theorem Secured.carry (h : s.Secured calls aim functionId) (hdetails : t.details = s.details)
    (hgraphs : t.flowGraphs = s.flowGraphs) (hfetches : ∀ f ∈ s.fetches, f ∈ t.fetches)
    (hasked : ∀ call ∈ calls, aim.request functionId ∈ call.requests →
      t.Secured more aim functionId) : t.Secured more aim functionId := by
  cases h with
  | held h =>
    refine .held ?_
    cases aim
    · rw [holds, hgraphs]; exact h
    · rw [holds, hdetails]; exact h
  | out ticket h => exact .out ticket (hfetches _ h)
  | asked call hcall h => exact hasked call hcall h

/-- Data are not lost while what is held is kept, and what is out and waits goes on. -/
theorem Secured.mono (h : s.Secured calls aim functionId) (hdetails : t.details = s.details)
    (hgraphs : t.flowGraphs = s.flowGraphs) (hfetches : ∀ f ∈ s.fetches, f ∈ t.fetches)
    (hcalls : ∀ call ∈ calls, call ∈ more) : t.Secured more aim functionId :=
  h.carry hdetails hgraphs hfetches fun call hcall hasked => .asked call (hcalls call hcall) hasked

/-- A fetch is out when it has just been sent. -/
theorem mem_fetches_spawn (s : Session) (aim : FetchAim) (functionId : Int) :
    ⟨s.nextTicket, aim, functionId⟩ ∈ (s.spawn aim functionId).fetches :=
  List.mem_append_right _ (List.mem_singleton_self _)

/-- Making requests leaves out what was out. -/
theorem mem_fetches_perform (requests : List Request) {f : Fetch} (h : f ∈ s.fetches) :
    f ∈ (s.perform requests).2.fetches := by
  induction requests generalizing s with
  | nil => exact h
  | cons request rest ih =>
    cases request with
    | source nodeId functionId => exact h
    | flowGraph functionId => exact ih (List.mem_append_left _ h)
    | pathDetail functionId => exact ih (List.mem_append_left _ h)

/-- Data that are requested are fetched, or the call waits and has still to request them. -/
theorem secured_perform {requests : List Request} (s : Session)
    (h : aim.request functionId ∈ requests) :
    (s.perform requests).2.Secured (s.perform requests).1.pending aim functionId := by
  induction requests generalizing s with
  | nil => exact absurd h List.not_mem_nil
  | cons request rest ih =>
    cases request with
    -- The turn ends at a source, and the call that waits for it has still to make the other requests.
    | source nodeId other => exact .asked _ (List.mem_singleton_self _) h
    | flowGraph other =>
      rcases List.mem_cons.mp h with heq | hrest
      · cases aim <;> cases heq
        exact .out s.nextTicket (mem_fetches_perform rest (mem_fetches_spawn s .flowGraph _))
      · exact ih (s.spawn .flowGraph other) hrest
    | pathDetail other =>
      rcases List.mem_cons.mp h with heq | hrest
      · cases aim <;> cases heq
        exact .out s.nextTicket (mem_fetches_perform rest (mem_fetches_spawn s .detail _))
      · exact ih (s.spawn .detail other) hrest

/-- What is held stays held when a fetch is answered. -/
theorem Received.holds {f : Fetch} (h : s.Received f t) (hheld : s.holds aim functionId = true) :
    t.holds aim functionId = true := by
  cases h with
  | unheard => exact hheld
  | passedOver => exact hheld
  | flowGraph hout haim graph =>
    cases aim with
    | flowGraph => exact Entries.has_put_of_has hheld _ _
    | detail => exact hheld
  | detail hout haim paths =>
    cases aim with
    | flowGraph => exact hheld
    | detail => exact Entries.has_put_of_has hheld _ _

/-- The answer to a fetch for the selected function is taken over, if it is no fault. -/
theorem holds_settle (hselected : s.selection.functionId = some functionId) {ticket : Nat}
    (hout : ⟨ticket, aim, functionId⟩ ∈ s.fetches)
    {answer : Except Fault (Fetch.mk ticket aim functionId).query.Answer}
    (hanswer : answer.isOk = true) :
    (s.settle ⟨ticket, aim, functionId⟩ answer).holds aim functionId = true := by
  cases answer with
  | error fault => cases hanswer
  | ok v =>
    cases aim <;>
      simp [Session.settle, close, hout, accept, wants, hselected, holds, keepFlowGraph, keepDetail,
        Entries.has]

/-- The data of the selected function are not lost when a fetch is answered, if the answer is no fault. -/
theorem Secured.settle (h : s.Secured calls aim functionId)
    (hselected : s.selection.functionId = some functionId) {f : Fetch}
    {answer : Except Fault f.query.Answer} (hanswer : answer.isOk = true) :
    (s.settle f answer).Secured calls aim functionId := by
  cases h with
  | held hheld => exact .held ((s.received_settle f answer).holds hheld)
  | asked call hcall hasked => exact .asked call hcall hasked
  | out ticket hout =>
    -- If this is the fetch that is answered, its data are held now, else it is still out.
    by_cases heq : f = ⟨ticket, aim, functionId⟩
    · subst heq
      exact .held (holds_settle hselected hout hanswer)
    · refine .out ticket ?_
      rw [settle_fetches]
      exact (List.mem_erase_of_ne (Ne.symm heq)).mpr hout

/-! ### The data of the selected function -/

/-- The selected function, if there is one, is a contract's own, and its data are not lost. -/
def Due (contracts : List Contract) (c : Contract) (a : Analysis) (s : Session)
    (calls : List Waiting) : Prop :=
  ∀ functionId, s.selection.functionId = some functionId →
    Contract.ownerOf? contracts functionId = some c ∧
      ∀ aim, a.callsFor aim functionId = true → s.Secured calls aim functionId

variable {contracts : List Contract} {c : Contract} {a : Analysis}

/-- Where no function is selected, nothing is due. -/
theorem due_of_no_function (h : s.selection.functionId = none) : s.Due contracts c a calls := by
  intro functionId hselected
  rw [h] at hselected
  cases hselected

/-- What leaves the selected function and the data alone loses none of its data. -/
theorem Due.mono (h : s.Due contracts c a calls)
    (hselection : t.selection.functionId = s.selection.functionId) (hdetails : t.details = s.details)
    (hgraphs : t.flowGraphs = s.flowGraphs) (hfetches : ∀ f ∈ s.fetches, f ∈ t.fetches)
    (hcalls : ∀ call ∈ calls, call ∈ more) : t.Due contracts c a more := by
  intro functionId hselected
  obtain ⟨howner, hsecured⟩ := h functionId (hselection.symm.trans hselected)
  exact ⟨howner, fun aim haim => (hsecured aim haim).mono hdetails hgraphs hfetches hcalls⟩

/-- Whoever opens a function requests all of its data. -/
theorem due_openFunction (hloaded : s.loaded = some ⟨c.name, a⟩)
    (howner : Contract.ownerOf? contracts functionId = some c)
    (hcalls : ∀ call ∈ (s.openFunction (some c) functionId).1.pending, call ∈ more) :
    (s.openFunction (some c) functionId).2.Due contracts c a more := by
  intro selected hselected
  rw [openFunction_functionId, Option.some.injEq] at hselected
  subst hselected
  refine ⟨howner, fun aim haim => ?_⟩
  have hsummary : s.hasSummary functionId = (a.summary? functionId).isSome := by
    simp [hasSummary, analysis?, hloaded]
  have hsecured := secured_perform
    ({ s with selection := s.selection.atFunction functionId (some c.id) })
    (Selection.request_mem_functionRequests hsummary haim)
  exact hsecured.mono rfl rfl (fun _ hf => hf) hcalls

/-- When a source comes, it may be displayed; then the other requests are made. -/
theorem resume_source_eq (s : Session) (nodeId : Int) (node : Option Int) (requests : List Request)
    (v : MappedSource) :
    ∃ display memo, s.resume (.source nodeId node requests) (.ok v) =
      ({ s with display := display, memo := memo } : Session).perform requests := by
  by_cases hwants : s.wants node nodeId = true
  · exact ⟨_, _, by simp only [resume, hwants, if_true]; rfl⟩
  · exact ⟨s.display, s.memo, by simp only [resume, hwants]; rfl⟩

/-- The data that a call still has to ask for are not lost when its source comes. -/
theorem Due.resume_source (h : s.Due contracts c a calls) {nodeId : Int} {node : Option Int}
    {requests : List Request} (v : MappedSource)
    (hpending : ∀ call ∈ (s.resume (.source nodeId node requests) (.ok v)).1.pending, call ∈ more)
    (hothers : ∀ call ∈ calls, call = .source nodeId node requests ∨ call ∈ more) :
    (s.resume (.source nodeId node requests) (.ok v)).2.Due contracts c a more := by
  obtain ⟨display, memo, hresume⟩ := s.resume_source_eq nodeId node requests v
  rw [hresume] at hpending ⊢
  obtain ⟨_, _, hperform⟩ :=
    perform_snd ({ s with display := display, memo := memo } : Session) requests
  intro functionId hselected
  rw [perform_selection] at hselected
  obtain ⟨howner, hsecured⟩ := h functionId hselected
  refine ⟨howner, fun aim haim => ?_⟩
  refine (hsecured aim haim).carry (by rw [hperform]) (by rw [hperform])
    (fun _ hf => mem_fetches_perform requests hf) ?_
  intro call hcall hasked
  rcases hothers call hcall with rfl | hkept
  · -- The call has its source, so what it asks for is among the requests that it makes now.
    have hrequest : aim.request functionId ∈ requests := by
      rcases List.mem_cons.mp hasked with heq | hrest
      · cases aim <;> cases heq
      · exact hrest
    exact (secured_perform _ hrequest).mono rfl rfl (fun _ hf => hf) hpending
  · exact .asked call hkept hasked

/-! ### What is shown when nothing is outstanding -/

/-- The views of the selected function show what the engine answers: its control-flow graph, and its detailed
    paths if the analysis has a summary of it, else its paths in the analysis, if it has an entry there. -/
structure ShowsResults (engine : Oracle) (a : Analysis) (functionId : Int) (s : Session) : Prop where
  flowGraph : engine (.flowGraph functionId) = .ok s.flowGraph
  detailed : (a.summary? functionId).isSome = true →
    ∃ paths, engine (.detail functionId) = .ok paths ∧ s.paths = .ok (some paths)
  coarse : a.summary? functionId = none →
    s.paths = .ok ((a.function? functionId).map FunctionAnalysis.paths)

/-- When nothing is outstanding, what is not lost is held. -/
theorem Secured.holds_of_idle (h : s.Secured [] aim functionId) (hout : s.fetches = []) :
    s.holds aim functionId = true := by
  cases h with
  | held h => exact h
  | out ticket h =>
    rw [hout] at h
    exact absurd h List.not_mem_nil
  | asked call hcall => exact absurd hcall List.not_mem_nil

variable {engine : Oracle}

/-- A control-flow graph that is held for the selected function is shown, and is the engine's. -/
theorem Provenance.flowGraph_of_holds (h : s.Provenance engine)
    (hselected : s.selection.functionId = some functionId)
    (hheld : s.holds .flowGraph functionId = true) :
    engine (.flowGraph functionId) = .ok s.flowGraph := by
  obtain ⟨graph, hfind⟩ := Option.isSome_iff_exists.mp hheld
  have hshown : s.flowGraph = graph := by simp [flowGraph, hselected, hfind]
  rw [hshown]
  exact h.flowGraphs _ (Entries.mem_of_find? hfind)

/-- Detailed paths that are held for the selected function are shown, and are the engine's. -/
theorem Provenance.paths_of_holds (h : s.Provenance engine)
    (hselected : s.selection.functionId = some functionId)
    (hheld : s.holds .detail functionId = true) :
    ∃ paths, engine (.detail functionId) = .ok paths ∧ s.paths = .ok (some paths) := by
  have hhas : s.details.has functionId = true := hheld
  obtain ⟨paths, hfind⟩ := Option.isSome_iff_exists.mp hheld
  refine ⟨paths, h.details _ (Entries.mem_of_find? hfind), ?_⟩
  simp [Session.paths, knownPaths, hselected, hhas, hfind]

/-- Without detailed paths, those of the analysis in use are shown. -/
theorem paths_of_not_holds (hcontracts : s.contracts = some contracts)
    (hloaded : s.loaded = some ⟨c.name, a⟩) (hselected : s.selection.functionId = some functionId)
    (hheld : s.holds .detail functionId = false) :
    s.paths = .ok ((a.function? functionId).map FunctionAnalysis.paths) := by
  have hhas : s.details.has functionId = false := hheld
  have hfind : s.details.find? functionId = none := by simpa [Entries.has] using hhas
  simp [Session.paths, knownPaths, contractList, Except.map, analysis?, hselected, hhas, hfind,
    hcontracts, hloaded]

/-- Details are held only for functions that are summarised, so for the others the coarse paths are shown. -/
theorem DetailsSummarised.not_holds (h : s.DetailsSummarised engine)
    (hcontracts : engine .contracts = .ok contracts)
    (howner : Contract.ownerOf? contracts functionId = some c) (hanalyzable : c.analyzable = true)
    (ha : engine (.analysis c.name) = .ok a) (hsummary : a.summary? functionId = none) :
    s.holds .detail functionId = false := by
  rw [Bool.eq_false_iff]
  intro hheld
  obtain ⟨paths, hfind⟩ := Option.isSome_iff_exists.mp hheld
  have hsome := h.held _ (Entries.mem_of_find? hfind) contracts c a hcontracts howner hanalyzable ha
  rw [hsummary] at hsome
  cases hsome

end Session

namespace World

open Session (Due Secured)

variable {engine : Oracle} {contracts : List Contract} {c : Contract} {a : Analysis} {w : World} {m : Move}

/-- A move that keeps the selection in a contract: only the contract and functions that it owns are selected.
    No answer is a fault, also none that comes to a background fetch. -/
structure StaysIn (engine : Oracle) (contracts : List Contract) (c : Contract) (w : World)
    (m : Move) : Prop where
  steady : w.Steady engine m
  arrives : ∀ fetch oracle, m = .deliver fetch oracle → (oracle fetch.query).isOk = true
  selects : ∀ event, m = .issue (.dispatch event) → event.selects = true →
    event.contract? contracts = some c

/-- While the selection stays in a contract, its analysis stays in use, all waiting calls wait for sources, and
    the data of the selected function are not lost. -/
structure ResultsDue (contracts : List Contract) (c : Contract) (a : Analysis) (w : World) : Prop where
  grounded : w.Grounded contracts
  loaded : w.session.loaded = some ⟨c.name, a⟩
  sources : ∀ call ∈ w.calls, ∃ nodeId functionId requests, call = .source nodeId functionId requests
  due : w.session.Due contracts c a w.calls

/-- The analysis of the contract is in use, and need not be fetched. -/
theorem ResultsDue.not_needs (h : w.ResultsDue contracts c a) : w.session.needsAnalysis c = false := by
  simp [Session.needsAnalysis, h.loaded]

/-- A call that makes requests waits for a source, if it waits. -/
theorem ResultsDue.sources_perform (h : w.ResultsDue contracts c a) (s : Session)
    (requests : List Request) :
    ∀ call ∈ w.calls ++ (s.perform requests).1.pending,
      ∃ nodeId functionId rest, call = .source nodeId functionId rest := by
  intro call hcall
  rcases List.mem_append.mp hcall with hold | hnew
  · exact h.sources call hold
  · exact (Session.pending_perform hnew).1

/-- A function that is selected is the contract's own. -/
theorem StaysIn.owner {event : NavigationEvent} (hm : w.StaysIn engine contracts c (.issue (.dispatch event)))
    {functionId : Int} (hevent : event.function? = some functionId) :
    Contract.ownerOf? contracts functionId = some c := by
  rw [← NavigationEvent.contract?_of_function hevent]
  exact hm.selects event rfl (NavigationEvent.selects_of_function hevent)

/-- **Step lemma.** An event within the contract sends for what it makes due. -/
theorem resultsDue_dispatch (h : w.ResultsDue contracts c a) {event : NavigationEvent}
    (hm : w.StaysIn engine contracts c (.issue (.dispatch event))) :
    (w.step (.issue (.dispatch event))).ResultsDue contracts c a := by
  have hgrounded := h.grounded.step hm.steady
  generalize hturn : w.session.begin (.dispatch event) = turn
  have hstep : w.step (.issue (.dispatch event)) = ⟨turn.2, w.calls ++ turn.1.pending⟩ := by
    rw [← hturn]; rfl
  rw [hstep] at hgrounded ⊢
  cases Session.firstTurn_of_begin h.grounded.held hturn with
  | steer hevent =>
    refine ⟨hgrounded, h.loaded, by simpa [Turn.pending] using h.sources, ?_⟩
    exact h.due.mono (w.session.selection.apply_of_not_selects _ hevent).2 rfl rfl (fun _ hf => hf)
      (fun _ hcall => List.mem_append_left _ hcall)
  | unknownContract id hevent hfind =>
    subst hevent
    exact absurd ((hm.selects _ rfl rfl).symm.trans hfind) (by simp)
  -- The analysis of the contract is in use, so nobody waits for it.
  | contractFirst id owner hevent hfind hneeds =>
    subst hevent
    cases hfind.symm.trans (hm.selects _ rfl rfl)
    rw [h.not_needs] at hneeds
    cases hneeds
  | contractNow id owner hevent hfind hneeds =>
    refine ⟨hgrounded, (Session.perform_loaded _ _).trans h.loaded, h.sources_perform _ _, ?_⟩
    exact Session.due_of_no_function (by rw [Session.perform_selection]; rfl)
  | analysisFirst functionId owner hevent hfind hneeds =>
    cases hfind.symm.trans (hm.owner hevent)
    rw [h.not_needs] at hneeds
    cases hneeds
  | functionNow functionId owner hevent hfind hneeds =>
    have howner := hm.owner hevent
    rw [howner] at hfind
    subst hfind
    refine ⟨hgrounded, (Session.openFunction_loaded _ _ _).trans h.loaded, h.sources_perform _ _, ?_⟩
    exact Session.due_openFunction h.loaded howner fun _ hcall => List.mem_append_right _ hcall

/-- **Step lemma.** When a source comes, what is requested behind it is sent for, or is still to be
    requested. -/
theorem resultsDue_reply (h : w.ResultsDue contracts c a) {k : Nat} {oracle : Oracle}
    (hm : w.Steady engine (.reply k oracle)) :
    (w.step (.reply k oracle)).ResultsDue contracts c a := by
  have hgrounded := h.grounded.step hm
  cases hm.1.replyStep with
  | unheard hk hsame => rw [hsame]; exact h
  | resumed call v hk hcall hsession hcalls hpending hothers =>
    -- Within a contract only source calls wait, and the requests behind them are spawned when they return.
    obtain ⟨nodeId, node, requests, rfl⟩ := h.sources call hcall
    obtain ⟨display, memo, hresume⟩ := w.session.resume_source_eq nodeId node requests v
    refine ⟨hgrounded, ?_, ?_, ?_⟩
    · rw [hsession, hresume, Session.perform_loaded]
      exact h.loaded
    · intro other hother
      rcases hcalls other hother with hold | hnew
      · exact h.sources other hold
      · rw [hresume] at hnew
        exact (Session.pending_perform hnew).1
    · rw [hsession]
      exact h.due.resume_source v hpending hothers

/-- **Step lemma.** Every move that keeps the selection in the contract keeps the invariant. -/
theorem resultsDue_step (w : World) (m : Move) (h : w.ResultsDue contracts c a)
    (hm : StaysIn engine contracts c w m) : (w.step m).ResultsDue contracts c a := by
  have hgrounded := h.grounded.step hm.steady
  cases m with
  | issue command =>
    cases command with
    | load => cases hm.steady.2
    | dispatch event => exact resultsDue_dispatch h hm
  | unload => cases hm.steady.2
  | navigate event => cases hm.steady.1.2.2
  | reply k oracle => exact resultsDue_reply h hm.steady
  | deliver fetch oracle =>
    -- A delivered answer may be the one that is due; it then lands in the dictionary of its aim.
    refine ⟨hgrounded, (Session.settle_loaded ..).trans h.loaded, h.sources, ?_⟩
    intro functionId hselected
    rw [step, Session.settle_selection] at hselected
    obtain ⟨howner, hsecured⟩ := h.due functionId hselected
    exact ⟨howner, fun aim haim => (hsecured aim haim).settle hselected (hm.arrives fetch oracle rfl)⟩
  | read view =>
    -- A view only fills the memo, which nothing due depends on.
    refine ⟨hgrounded, (Session.read_loaded ..).trans h.loaded, h.sources, ?_⟩
    obtain ⟨_, hread⟩ := w.session.read_eq view
    show (w.session.read view).Due contracts c a w.calls
    rw [hread]
    exact h.due.mono rfl rfl rfl (fun _ hf => hf) (fun _ hcall => hcall)

/-- No function is selected, a contract that can be analysed has its analysis in use, and no call waits. -/
structure AtContract (contracts : List Contract) (c : Contract) (w : World) : Prop where
  held : w.session.contracts = some contracts
  noFunction : w.session.selection.functionId = none
  analyzable : c.analyzable = true
  uses : w.session.Uses c
  idle : w.calls = []

/-- At a contract that was just selected, nothing is due. -/
theorem AtContract.resultsDue (h : w.AtContract contracts c) :
    ∃ a, w.ResultsDue contracts c a := by
  obtain ⟨l, hl, hname⟩ := Option.map_eq_some_iff.mp h.uses
  refine ⟨l.analysis, ⟨h.held, ?_⟩, ?_, ?_, Session.due_of_no_function h.noFunction⟩
  · rw [h.idle]
    exact fun _ hcall => absurd hcall List.not_mem_nil
  · rw [hl, ← hname]
  · rw [h.idle]
    exact fun _ hcall => absurd hcall List.not_mem_nil

/-- **No background result is lost.** Take any run on a fresh session at a deterministic engine, after which no
    call waits, no function is selected and a contract has its analysis in use.  Then take any run of moves that
    keep the selection in the contract, with selections that overlap and answers in any order, none of which is
    a fault.  Whenever nothing is outstanding after it and a function is selected, the views of the function
    show what the engine answers.

    Neither need the contract be selected for the first time, nor its name tell it from the others: details that
    were fetched before are those of functions that the analysis summarises, too. -/
theorem background_results_arrive {engine : Oracle} (config : Config) {before moves : List Move}
    (hbefore : ∀ m ∈ before, m.HonestTo engine) {contracts : List Contract} {c : Contract}
    (hstart : ((fresh config).run before).AtContract contracts c)
    (hmoves : ((fresh config).run before).Along (StaysIn engine contracts c) moves)
    (hidle : ((fresh config).run (before ++ moves)).calls = [])
    (hout : ((fresh config).run (before ++ moves)).session.fetches = []) {functionId : Int}
    (hselected : ((fresh config).run (before ++ moves)).session.selection.functionId =
      some functionId) :
    ∃ a, engine (.analysis c.name) = .ok a ∧
      ((fresh config).run (before ++ moves)).session.loaded = some ⟨c.name, a⟩ ∧
      ((fresh config).run (before ++ moves)).session.ShowsResults engine a functionId := by
  have hhonest : ∀ m ∈ before ++ moves, m.HonestTo engine := by
    intro m hm
    rcases List.mem_append.mp hm with hm | hm
    · exact hbefore m hm
    · exact hmoves.forall_mem (fun _ _ hm => hm.steady.1.1) m hm
  -- `before` is any honest run; the invariant holds from its end and through `moves`.
  have hsummarised := detailsSummarised_run config hhonest
  obtain ⟨a, hdue⟩ := hstart.resultsDue
  have hdue : ((fresh config).run (before ++ moves)).ResultsDue contracts c a := by
    rw [run_append]
    exact run_invariant (ResultsDue contracts c a) resultsDue_step hdue hmoves
  have hprovenance := hsummarised.rooted.provenance
  have hanswer : engine (.analysis c.name) = .ok a := hprovenance.loaded _ hdue.loaded
  -- With no call waiting and no fetch out, what is due has been stored.
  obtain ⟨howner, hsecured⟩ := hdue.due functionId hselected
  rw [hidle] at hsecured
  have hheld : ∀ aim, a.callsFor aim functionId = true →
      ((fresh config).run (before ++ moves)).session.holds aim functionId = true :=
    fun aim haim => (hsecured aim haim).holds_of_idle hout
  refine ⟨a, hanswer, hdue.loaded, ?_, ?_, ?_⟩
  · exact hprovenance.flowGraph_of_holds hselected (hheld .flowGraph rfl)
  · exact fun hsummary => hprovenance.paths_of_holds hselected (hheld .detail hsummary)
  · -- Without a summary no detail was asked for, and the analysis' own paths are shown.
    intro hsummary
    have hcontracts := hsummarised.rooted.contracts _ hdue.grounded.held
    exact Session.paths_of_not_holds hdue.grounded.held hdue.loaded hselected
      (hsummarised.session.not_holds hcontracts howner hstart.analyzable hanswer hsummary)

/-- A contract of two functions. -/
def pool : Contract where
  id := 1
  name := "Pool"
  functions := [{ id := 10, name := "swap" }, { id := 11, name := "fee" }]

/-- An archive of one contract, in whose analysis only the first function has a summary. -/
def poolArchive : Archive where
  contracts := [pool]
  analyses :=
    [("Pool", .obj
        [("functions", .arr
            [.obj [("functionId", .int 10), ("functionName", .str "swap")],
              .obj [("functionId", .int 11), ("functionName", .str "fee")]]),
          ("summaries", .arr [.obj [("functionId", .int 10), ("functionName", .str "swap")]])])]
  sources :=
    [(1, .obj [("source", .str "contract Pool")]), (10, .obj [("source", .str "function swap")]),
      (11, .obj [("source", .str "function fee")])]
  flowGraphs := [(10, .obj [("blocks", .arr [])]), (11, .obj [("blocks", .arr [])])]

/-- The moves after which the contract of `poolArchive` is selected and its analysis is in use. -/
def atPool : List Move :=
  let engine := poolArchive.oracle
  [.issue .load, .reply 0 engine, .issue (.dispatch (.selectContract 1)), .reply 0 engine,
    .reply 0 engine]

/-- A function is selected again before its source has come, and another one meanwhile.  The sources come in the
    opposite order, and each of them sends out the fetches for its function. -/
def reselections : List Move :=
  let engine := poolArchive.oracle
  [.issue (.dispatch (.selectFunction 10 none)), .issue (.dispatch (.selectFunction 11 none)),
    .issue (.dispatch (.navigateToFunction 10 none)), .reply 2 engine, .reply 1 engine,
    .reply 0 engine, .deliver ⟨2, .flowGraph, 11⟩ engine, .deliver ⟨4, .detail, 10⟩ engine,
    .deliver ⟨0, .flowGraph, 10⟩ engine, .deliver ⟨3, .flowGraph, 10⟩ engine,
    .deliver ⟨1, .detail, 10⟩ engine]

/-- The contract is selected, and its analysis is in use. -/
theorem atContract_atPool : ((fresh {}).run atPool).AtContract [pool] pool := by
  refine ⟨?_, ?_, ?_, ?_, ?_⟩
  · decide +kernel
  · decide +kernel
  · decide +kernel
  · unfold Session.Uses
    decide +kernel
  · decide +kernel

/-- The events that follow stay within the contract. -/
theorem staysIn_reselections :
    ((fresh {}).run atPool).Along (StaysIn poolArchive.oracle [pool] pool) reselections := by
  refine ⟨?_, ?_, ?_, ?_, ?_, ?_, ?_, ?_, ?_, ?_, ?_, trivial⟩ <;>
    exact ⟨⟨⟨by simp [Move.HonestTo, Move.Tells], by decide +kernel, rfl⟩, rfl⟩,
      by rintro _ _ ⟨⟩ <;> decide +kernel, by rintro _ ⟨⟩ _ <;> decide +kernel⟩

/-- The sources come in the opposite order, and still the results of the function that was selected last are
    there. -/
theorem background_results_arrive_of_reselections :
    (∀ m ∈ atPool, m.HonestTo poolArchive.oracle) ∧
      ((fresh {}).run atPool).AtContract [pool] pool ∧
      ((fresh {}).run atPool).Along (StaysIn poolArchive.oracle [pool] pool) reselections ∧
      ((fresh {}).run (atPool ++ reselections)).calls = [] ∧
      ((fresh {}).run (atPool ++ reselections)).session.fetches = [] ∧
      ((fresh {}).run (atPool ++ reselections)).session.selection.functionId = some 10 ∧
      ∃ a, poolArchive.oracle (.analysis "Pool") = .ok a ∧
        ((fresh {}).run (atPool ++ reselections)).session.loaded = some ⟨"Pool", a⟩ ∧
        ((fresh {}).run (atPool ++ reselections)).session.ShowsResults poolArchive.oracle a 10 := by
  have hbefore : ∀ m ∈ atPool, m.HonestTo poolArchive.oracle := by
    simp [atPool, Move.HonestTo, Move.Tells]
  have hidle : ((fresh {}).run (atPool ++ reselections)).calls = [] := by decide +kernel
  have hout : ((fresh {}).run (atPool ++ reselections)).session.fetches = [] := by decide +kernel
  have hselected : ((fresh {}).run (atPool ++ reselections)).session.selection.functionId =
      some 10 := by
    decide +kernel
  exact ⟨hbefore, atContract_atPool, staysIn_reselections, hidle, hout, hselected,
    background_results_arrive {} hbefore atContract_atPool staysIn_reselections hidle hout hselected⟩

-- The details are held for the function that has a summary, and for no other.
example :
    ((fresh {}).run (atPool ++ reselections)).session.details.keys = [10] ∧
      ((fresh {}).run (atPool ++ reselections)).session.flowGraphs.keys = [10] := by
  decide +kernel

end World

end RangeAudit
