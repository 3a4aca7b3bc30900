import RangeAudit.Proofs.Interleaving.AnalysisFreshness
import RangeAudit.Proofs.Session.Visit

namespace RangeAudit

/-!
# Whose details are fetched

The details of a function are fetched if the analysis in use has a summary of it when the function is
selected.  They are fetched late: only when the source has come, and then in the background.  Meanwhile the
analysis in use may change, and the contracts may be loaded anew; the details that come still are those of a
function that is summarised by the analysis of its owner.

* `Oracle.Summarises` — the engine's analysis of the owner of a function has a summary of it;
* `Session.Rooted` — the contracts and the data of a session are the engine's;
* `Session.DetailsSummarised`, `Waiting.DetailsSummarised` — details are held, out or asked for only for
  functions that are summarised;
* `Session.summarises_of_hasSummary` — who selects a function looks into the analysis of its owner;
* `World.detailsSummarised_step`, `World.detailsSummarised_run` — the step lemma, and the run lemma.
-/

/-- If the owner of a function can be analysed, the engine's analysis of it has a summary of the function. -/
def Oracle.Summarises (engine : Oracle) (functionId : Int) : Prop :=
  ∀ contracts owner a, engine .contracts = .ok contracts →
    Contract.ownerOf? contracts functionId = some owner → owner.analyzable = true →
    engine (.analysis owner.name) = .ok a → (a.summary? functionId).isSome = true

/-- What is known of a waiting call: the owner that it has found is that among the engine's contracts, and it
    asks for the details of functions only that are summarised. -/
structure Waiting.DetailsSummarised (engine : Oracle) (call : Waiting) : Prop where
  owner : ∀ owner functionId, call = .ownerAnalysis owner functionId →
    ∃ contracts, engine .contracts = .ok contracts ∧
      Contract.ownerOf? contracts functionId = some owner
  asked : ∀ functionId, Request.pathDetail functionId ∈ call.requests → engine.Summarises functionId

namespace Session

variable {engine : Oracle} {s t : Session}

/-! ### The contracts and the data are the engine's -/

/-- The contracts and the data of the session are the engine's. -/
structure Rooted (engine : Oracle) (s : Session) : Prop where
  provenance : s.Provenance engine
  contracts : ∀ contracts, s.contracts = some contracts → engine .contracts = .ok contracts

/-- **Step lemma.** Every change leaves the contracts and the data the engine's. -/
theorem Change.rooted (hchange : Change (fun q v => engine q = .ok v) s t) (h : s.Rooted engine) :
    t.Rooted engine := by
  refine ⟨hchange.provenance h.provenance, ?_⟩
  cases hchange with
  | unload => exact fun _ hnone => by cases hnone
  | enter contracts hcontracts =>
    intro held hheld
    cases hheld
    exact hcontracts
  | read view =>
    rw [read_contracts]
    exact h.contracts
  | _ => exact h.contracts

/-! ### Details are those of functions that are summarised -/

/-- Details are held, and fetches for details are out, only for functions that are summarised. -/
structure DetailsSummarised (engine : Oracle) (s : Session) : Prop where
  held : ∀ entry ∈ s.details, engine.Summarises entry.1
  out : ∀ f ∈ s.fetches, f.aim = .detail → engine.Summarises f.functionId

/-- What is known after a turn: of the session, and of the call if it goes on waiting. -/
structure TurnSummarised (engine : Oracle) (turn : Turn × Session) : Prop where
  session : turn.2.DetailsSummarised engine
  pending : ∀ call ∈ turn.1.pending, call.DetailsSummarised engine

/-- All depends on the details that are held and on what is out. -/
theorem DetailsSummarised.congr (h : s.DetailsSummarised engine) (hdetails : t.details = s.details)
    (hfetches : t.fetches = s.fetches) : t.DetailsSummarised engine :=
  ⟨by rw [hdetails]; exact h.held, by rw [hfetches]; exact h.out⟩

/-- A session that holds no details, and waits for nothing in the background. -/
theorem detailsSummarised_blank (hdetails : s.details = []) (hfetches : s.fetches = []) :
    s.DetailsSummarised engine :=
  ⟨by simp [hdetails], by simp [hfetches]⟩

/-- A call that has ended leaves nothing to know of it. -/
theorem DetailsSummarised.ended (h : s.DetailsSummarised engine) {turn : Turn}
    (hturn : turn.pending = []) : TurnSummarised engine (turn, s) :=
  ⟨h, by simp [hturn]⟩

/-- A call that goes on waiting. -/
theorem DetailsSummarised.waits (h : s.DetailsSummarised engine) {call : Waiting}
    (hcall : call.DetailsSummarised engine) : TurnSummarised engine (.waiting call, s) :=
  ⟨h, by simpa [Turn.pending] using hcall⟩

/-- A fetch may be sent out, unless it is for the details of a function that is not summarised. -/
theorem DetailsSummarised.spawn (h : s.DetailsSummarised engine) {aim : FetchAim} {functionId : Int}
    (haim : aim = .detail → engine.Summarises functionId) :
    (s.spawn aim functionId).DetailsSummarised engine := by
  refine ⟨h.held, ?_⟩
  intro f hf
  rcases List.mem_append.mp hf with hold | hnew
  · exact h.out f hold
  · rw [List.mem_singleton] at hnew
    subst hnew
    exact haim

/-- The data of functions are dropped when an analysis comes; what is out stays out. -/
theorem DetailsSummarised.useAnalysis (h : s.DetailsSummarised engine) (contract : String)
    (a : Analysis) : (s.useAnalysis contract a).DetailsSummarised engine :=
  ⟨fun _ hentry => absurd hentry List.not_mem_nil, h.out⟩

/-- Making requests for details of functions that are summarised sends for such details only, now or later. -/
theorem turnSummarised_perform {requests : List Request} (h : s.DetailsSummarised engine)
    (hasked : ∀ functionId, Request.pathDetail functionId ∈ requests → engine.Summarises functionId) :
    TurnSummarised engine (s.perform requests) := by
  induction requests generalizing s with
  | nil => exact h.ended rfl
  | cons request rest ih =>
    have hrest : ∀ functionId, Request.pathDetail functionId ∈ rest →
        engine.Summarises functionId :=
      fun functionId hmem => hasked functionId (List.mem_cons_of_mem _ hmem)
    cases request with
    | source nodeId functionId => exact h.waits ⟨by rintro _ _ ⟨⟩, hasked⟩
    | flowGraph functionId => exact ih (h.spawn fun haim => by cases haim) hrest
    | pathDetail functionId =>
      exact ih (h.spawn fun _ => hasked functionId List.mem_cons_self) hrest

/-- Opening a function requests its details only if it has a summary in the analysis in use. -/
theorem turnSummarised_openFunction (h : s.DetailsSummarised engine) (owner : Option Contract)
    {functionId : Int} (hsummary : s.hasSummary functionId = true → engine.Summarises functionId) :
    TurnSummarised engine (s.openFunction owner functionId) := by
  rw [openFunction_eq_perform]
  refine turnSummarised_perform (h.congr rfl rfl) ?_
  intro other hother
  simp only [Selection.functionRequests, List.mem_append, List.mem_cons, reduceCtorEq,
    List.not_mem_nil, or_self, false_or] at hother
  split at hother
  · rename_i hhas
    rw [List.mem_singleton] at hother
    cases hother
    exact hsummary hhas
  · exact absurd hother List.not_mem_nil

/-- Who selects a function without waiting for an analysis looks into that of the owner, if the owner can be
    analysed. -/
theorem summarises_of_hasSummary {contracts : List Contract} {functionId : Int}
    (hprovenance : s.Provenance engine) (hcontracts : engine .contracts = .ok contracts)
    (hneeds : ∀ c, Contract.ownerOf? contracts functionId = some c → s.needsAnalysis c = false)
    (hhas : s.hasSummary functionId = true) : engine.Summarises functionId := by
  intro contracts' owner a hcontracts' howner hanalyzable ha
  rw [hcontracts] at hcontracts'
  cases hcontracts'
  have huses : s.Uses owner := uses_of_not_needs hanalyzable (hneeds owner howner)
  obtain ⟨l, hl, hname⟩ := Option.map_eq_some_iff.mp huses
  -- The analysis in use is the engine's, so it is the one that the summary is looked for in.
  have hanswer := hprovenance.loaded l hl
  rw [hname, ha] at hanswer
  cases hanswer
  simpa [hasSummary, analysis?, hl] using hhas

/-- **Step lemma.** A first turn that opens a function does so in the contract whose analysis is in use. -/
theorem turnSummarised_begin (hrooted : s.Rooted engine) (h : s.DetailsSummarised engine)
    (command : Command) : TurnSummarised engine (s.begin command) := by
  cases command with
  | load => exact h.waits ⟨by rintro _ _ ⟨⟩, fun _ hmem => absurd hmem List.not_mem_nil⟩
  | dispatch event =>
    cases hcontracts : s.contracts with
    | none =>
      simp only [begin, hcontracts]
      exact h.ended rfl
    | some contracts =>
      -- The listed contracts are the engine's own, so a summary in the list is one the engine knows of.
      have hengine := hrooted.contracts contracts hcontracts
      have hsource : ∀ {id : Int} functionId,
          Request.pathDetail functionId ∈ [Request.source id none] → engine.Summarises functionId := by
        intro id functionId hmem
        simp at hmem
      have hnavigate : ∀ event, (s.navigate event).1.DetailsSummarised engine :=
        fun _ => h.congr rfl rfl
      generalize hturn : s.begin (.dispatch event) = turn
      cases firstTurn_of_begin hcontracts hturn with
      | steer => exact (hnavigate event).ended rfl
      | unknownContract => exact h.ended rfl
      | contractFirst id c => exact (hnavigate _).waits ⟨by rintro _ _ ⟨⟩, hsource⟩
      | contractNow id c => exact turnSummarised_perform (hnavigate _) hsource
      | analysisFirst functionId owner hevent hfind =>
        refine h.waits ⟨?_, fun _ hmem => absurd hmem List.not_mem_nil⟩
        rintro _ _ ⟨⟩
        exact ⟨contracts, hengine, hfind⟩
      | functionNow functionId owner hevent hfind hneeds =>
        -- The one case that asks for details at once: the function's summary must be the owner's.
        refine turnSummarised_openFunction h owner ?_
        exact summarises_of_hasSummary hrooted.provenance hengine fun c hc =>
          hneeds c (hfind.symm.trans hc)

/-- **Step lemma.** A later turn requests what was to be requested, or opens a function with the analysis of its
    owner. -/
theorem turnSummarised_resume (hrooted : s.Rooted engine) (h : s.DetailsSummarised engine)
    {call : Waiting} (hcall : call.DetailsSummarised engine) {answer : Except Fault call.query.Answer}
    (hanswer : ∀ v, answer = .ok v → engine call.query = .ok v) :
    TurnSummarised engine (s.resume call answer) := by
  cases answer with
  | error fault => cases call <;> exact h.ended rfl
  | ok v =>
    have hv := hanswer v rfl
    cases call with
    | contracts => exact DetailsSummarised.ended (detailsSummarised_blank rfl rfl) rfl
    | contractAnalysis c requests =>
      exact turnSummarised_perform (h.useAnalysis c.name v) hcall.asked
    | ownerAnalysis owner functionId =>
      -- The session may have been unloaded meanwhile, but the owner was found among the engine's contracts.
      obtain ⟨contracts, hengine, howner⟩ := hcall.owner owner functionId rfl
      have hrooted' : (s.useAnalysis owner.name v).Rooted engine :=
        (Change.useAnalysis s owner.name v hv).rooted hrooted
      refine turnSummarised_openFunction (h.useAnalysis owner.name v) (some owner) ?_
      refine summarises_of_hasSummary hrooted'.provenance hengine ?_
      intro c hc
      rw [howner] at hc
      cases hc
      simp [needsAnalysis, Session.useAnalysis]
    | source nodeId functionId requests =>
      refine turnSummarised_perform ?_ fun other hmem => hcall.asked other (List.mem_cons_of_mem _ hmem)
      split
      · exact h.congr rfl rfl
      · exact h

/-- Details that come were out before. -/
theorem DetailsSummarised.settle (h : s.DetailsSummarised engine) (f : Fetch)
    (answer : Except Fault f.query.Answer) : (s.settle f answer).DetailsSummarised engine := by
  refine ⟨?_, ?_⟩
  · intro entry hentry
    rcases (s.received_settle f answer).mem_details hentry with hold | ⟨hout, haim, hentry⟩
    · exact h.held entry hold
    · rw [hentry]
      exact h.out f hout haim
  · intro other hother
    rw [settle_fetches] at hother
    exact h.out other (List.mem_of_mem_erase hother)

end Session

namespace World

variable {engine : Oracle}

/-- Details are held, out or asked for only for functions that are summarised. -/
structure DetailsSummarised (engine : Oracle) (w : World) : Prop where
  rooted : w.session.Rooted engine
  session : w.session.DetailsSummarised engine
  calls : ∀ call ∈ w.calls, call.DetailsSummarised engine

/-- **Step lemma.** The answer to a call keeps what is known of the session and of the calls that go on
    waiting. -/
theorem detailsSummarised_reply {w : World} (h : w.DetailsSummarised engine) {k : Nat} {oracle : Oracle}
    (hrooted : (w.step (.reply k oracle)).session.Rooted engine)
    (hm : Move.HonestTo engine (.reply k oracle)) :
    (w.step (.reply k oracle)).DetailsSummarised engine := by
  cases hk : w.calls[k]? with
  | none =>
    rw [step_reply_none hk]
    exact h
  | some call =>
    obtain ⟨before, after, hcalls, hstep⟩ := step_reply_some hk oracle
    have hturn := Session.turnSummarised_resume h.rooted h.session
      (h.calls call (List.mem_of_getElem? hk)) (hm call.query)
    refine ⟨hrooted, ?_, ?_⟩
    · rw [hstep]
      exact hturn.session
    · intro c hc
      simp only [hstep, List.append_assoc, List.mem_append] at hc
      -- The resumed call is gone; its neighbours stay and its turn may have sent new ones.
      rcases hc with hbefore | hnew | hafter
      · exact h.calls c (by rw [hcalls]; exact List.mem_append_left _ hbefore)
      · exact hturn.pending c hnew
      · exact h.calls c (by rw [hcalls]; exact List.mem_append_right _ (List.mem_cons_of_mem _ hafter))

/-- **Step lemma.** Every move at a deterministic engine keeps the details to functions that are
    summarised. -/
theorem detailsSummarised_step (w : World) (m : Move) (h : w.DetailsSummarised engine)
    (hm : m.HonestTo engine) : (w.step m).DetailsSummarised engine := by
  -- Provenance first, as the answers a turn uses have to be the engine's.
  have hrooted : (w.step m).session.Rooted engine :=
    (changes_step w m hm).preserve (fun hchange hs => hchange.rooted hs) h.rooted
  cases m with
  | issue command =>
    have hturn := Session.turnSummarised_begin h.rooted h.session command
    refine ⟨hrooted, hturn.session, ?_⟩
    intro call hcall
    rcases List.mem_append.mp hcall with hold | hnew
    · exact h.calls call hold
    · exact hturn.pending call hnew
  | unload => exact ⟨hrooted, Session.detailsSummarised_blank rfl rfl, h.calls⟩
  | navigate event => exact ⟨hrooted, h.session.congr rfl rfl, h.calls⟩
  | reply k oracle => exact detailsSummarised_reply h hrooted hm
  | deliver fetch oracle => exact ⟨hrooted, h.session.settle fetch _, h.calls⟩
  | read view =>
    refine ⟨hrooted, ?_, h.calls⟩
    obtain ⟨_, hread⟩ := w.session.read_eq view
    show (w.session.read view).DetailsSummarised engine
    rw [hread]
    exact h.session.congr rfl rfl

/-- A fresh session holds nothing and waits for nothing. -/
theorem detailsSummarised_fresh (config : Config) : (fresh config).DetailsSummarised engine where
  rooted := ⟨provenance_fresh config, fun _ hnone => by cases hnone⟩
  session := Session.detailsSummarised_blank rfl rfl
  calls := fun _ hcall => absurd hcall List.not_mem_nil

/-- **Run lemma.** After every run at a deterministic engine, whose calls may fail at any time, details are
    held, out or asked for only for functions that the analysis of their owner has a summary of. -/
theorem detailsSummarised_run (config : Config) {moves : List Move}
    (hmoves : ∀ m ∈ moves, m.HonestTo engine) :
    ((fresh config).run moves).DetailsSummarised engine :=
  run_invariant (DetailsSummarised engine) detailsSummarised_step (detailsSummarised_fresh config)
    (along_of_forall hmoves _)

end World

end RangeAudit
