import RangeAudit.Proofs.Interleaving.World

namespace RangeAudit

/-!
# What a turn does to the selection, and what it leaves to do

A turn that selects ends by making requests.  Making requests leaves everything but the fetches alone,
and stops at the first source, for which the call then waits; so what is still to be done for a selection
can be read off the call that waits.

* `NavigationEvent.selects` — the events that select a contract or a function; no other event changes
  which contract and which function are selected (`Selection.apply_of_not_selects`);
* `NavigationEvent.contract?` — the contract whose analysis an event asks for;
* `Waiting.requests` — the requests that a call still has to make;
* `Session.source_mem_pending_perform` — no source is lost when requests are made;
* `Session.FirstTurn`, `Session.firstTurn_of_begin` — all ways in which a first turn can go.
-/

/-- Does an event select a contract or a function? -/
def NavigationEvent.selects : NavigationEvent → Bool
  | selectContract _ => true
  | selectFunction _ _ => true
  | navigateToFunction _ _ => true
  | _ => false

/-- The function that an event selects, if it selects one. -/
def NavigationEvent.function? : NavigationEvent → Option Int
  | selectFunction id _ => some id
  | navigateToFunction id _ => some id
  | _ => none

/-- The contract whose analysis an event asks for: the one that it selects, or the owner of the function. -/
def NavigationEvent.contract? (contracts : List Contract) : NavigationEvent → Option Contract
  | selectContract id => Contract.withId? contracts id
  | selectFunction id _ | navigateToFunction id _ => Contract.ownerOf? contracts id
  | _ => none

/-- The selection of a function goes to the contract that lists it. -/
theorem NavigationEvent.contract?_of_function {contracts : List Contract} {event : NavigationEvent}
    {functionId : Int} (h : event.function? = some functionId) :
    event.contract? contracts = Contract.ownerOf? contracts functionId := by
  cases event <;> cases h <;> rfl

/-- An event that selects nothing goes to no contract. -/
theorem NavigationEvent.contract?_of_not_selects {contracts : List Contract} {event : NavigationEvent}
    (h : event.selects = false) : event.contract? contracts = none := by
  cases event <;> first | rfl | cases h

namespace Selection

/-- The node whose source belongs to a selection: the function's, else the contract's. -/
def node (s : Selection) : Option Int :=
  s.functionId.or s.contractId

/-- Other events leave the selected contract and function. -/
theorem apply_of_not_selects (s : Selection) (hasSummary : Int → Bool) {event : NavigationEvent}
    (h : event.selects = false) :
    (s.apply hasSummary event).1.contractId = s.contractId ∧
      (s.apply hasSummary event).1.functionId = s.functionId := by
  cases event with
  | selectContract id => simp [NavigationEvent.selects] at h
  | selectFunction id contract => simp [NavigationEvent.selects] at h
  | navigateToFunction id contract => simp [NavigationEvent.selects] at h
  | backToOverview => exact ⟨rfl, rfl⟩
  | inspectVariable id name => exact ⟨rfl, rfl⟩
  | selectLine line => exact ⟨rfl, rfl⟩
  | selectPath k => simp only [apply]; split <;> exact ⟨rfl, rfl⟩
  | highlightStep k => simp only [apply]; split <;> exact ⟨rfl, rfl⟩
  | switchMode mode => simp only [apply]; split <;> exact ⟨rfl, rfl⟩

end Selection

/-- The source of a function names the function; the source of a contract names none. -/
def Request.Proper : Request → Prop
  | .source nodeId functionId => functionId = none ∨ functionId = some nodeId
  | _ => True

/-- The requests that a waiting call still has to make, the one that it waits for included. -/
def Waiting.requests : Waiting → List Request
  | contracts => []
  | contractAnalysis _ requests => requests
  | ownerAnalysis _ _ => []
  | source nodeId functionId requests => .source nodeId functionId :: requests

namespace Session

variable {s : Session} {requests : List Request}

/-! ### Making requests -/

/-- Making requests only sends out fetches. -/
theorem perform_snd (s : Session) (requests : List Request) :
    ∃ tasks fetches, (s.perform requests).2 = { s with tasks := tasks, fetches := fetches } := by
  induction requests generalizing s with
  | nil => exact ⟨_, _, rfl⟩
  | cons request rest ih =>
    cases request with
    | source nodeId functionId => exact ⟨_, _, rfl⟩
    | flowGraph functionId =>
      obtain ⟨tasks, fetches, h⟩ := ih (s.spawn .flowGraph functionId)
      exact ⟨tasks, fetches, h⟩
    | pathDetail functionId =>
      obtain ⟨tasks, fetches, h⟩ := ih (s.spawn .detail functionId)
      exact ⟨tasks, fetches, h⟩

/-- Making requests leaves the selection alone. -/
@[simp] theorem perform_selection (s : Session) (requests : List Request) :
    (s.perform requests).2.selection = s.selection := by
  obtain ⟨_, _, h⟩ := perform_snd s requests
  rw [h]

/-- Making requests displays nothing; a source is displayed when it comes. -/
@[simp] theorem perform_display (s : Session) (requests : List Request) :
    (s.perform requests).2.display = s.display := by
  obtain ⟨_, _, h⟩ := perform_snd s requests
  rw [h]

/-- Making requests leaves alone the analysis that is in use. -/
@[simp] theorem perform_loaded (s : Session) (requests : List Request) :
    (s.perform requests).2.loaded = s.loaded := by
  obtain ⟨_, _, h⟩ := perform_snd s requests
  rw [h]

/-- Making requests leaves the contracts alone. -/
@[simp] theorem perform_contracts (s : Session) (requests : List Request) :
    (s.perform requests).2.contracts = s.contracts := by
  obtain ⟨_, _, h⟩ := perform_snd s requests
  rw [h]

/-- If requests are not all made, the call waits for a source, and what it still has to do is among
    them. -/
theorem pending_perform {call : Waiting} (h : call ∈ (s.perform requests).1.pending) :
    (∃ nodeId functionId rest, call = .source nodeId functionId rest) ∧
      ∀ r ∈ call.requests, r ∈ requests := by
  induction requests generalizing s with
  | nil => simp [perform, Turn.pending] at h
  | cons request rest ih =>
    cases request with
    | source nodeId functionId =>
      simp only [perform, Turn.pending, List.mem_singleton] at h
      subst h
      exact ⟨⟨_, _, _, rfl⟩, fun r hr => hr⟩
    | flowGraph functionId =>
      obtain ⟨hcall, hrequests⟩ := ih h
      exact ⟨hcall, fun r hr => List.mem_cons_of_mem _ (hrequests r hr)⟩
    | pathDetail functionId =>
      obtain ⟨hcall, hrequests⟩ := ih h
      exact ⟨hcall, fun r hr => List.mem_cons_of_mem _ (hrequests r hr)⟩

/-- A source that is requested is still to be had afterwards. -/
theorem source_mem_pending_perform (s : Session) {nodeId : Int} {functionId : Option Int}
    (h : Request.source nodeId functionId ∈ requests) :
    ∃ call ∈ (s.perform requests).1.pending, Request.source nodeId functionId ∈ call.requests := by
  induction requests generalizing s with
  | nil => simp at h
  | cons request rest ih =>
    cases request with
    | source otherId otherFunction =>
      exact ⟨_, List.mem_singleton_self _, h⟩
    | flowGraph other =>
      rcases List.mem_cons.mp h with h | h
      · cases h
      · exact ih (s.spawn .flowGraph other) h
    | pathDetail other =>
      rcases List.mem_cons.mp h with h | h
      · cases h
      · exact ih (s.spawn .detail other) h

/-- What a background fetch brings concerns the data of functions only. -/
theorem settle_eq (s : Session) (f : Fetch) (answer : Except Fault f.query.Answer) :
    ∃ tasks fetches flowGraphs details memo, s.settle f answer =
      { s with
        tasks := tasks, fetches := fetches, flowGraphs := flowGraphs, details := details, memo := memo } := by
  unfold settle
  split
  · obtain ⟨ticket, aim, functionId⟩ := f
    cases answer with
    | error fault => cases aim <;> exact ⟨_, _, _, _, _, rfl⟩
    | ok v => cases aim <;> simp only [accept] <;> split <;> exact ⟨_, _, _, _, _, rfl⟩
  · exact ⟨_, _, _, _, _, rfl⟩

/-- The contracts stay as they are. -/
@[simp] theorem settle_contracts (s : Session) (f : Fetch) (answer : Except Fault f.query.Answer) :
    (s.settle f answer).contracts = s.contracts := by
  obtain ⟨_, _, _, _, _, hsettle⟩ := settle_eq s f answer
  rw [hsettle]

/-- The selection stays as it is. -/
@[simp] theorem settle_selection (s : Session) (f : Fetch) (answer : Except Fault f.query.Answer) :
    (s.settle f answer).selection = s.selection := by
  obtain ⟨_, _, _, _, _, hsettle⟩ := settle_eq s f answer
  rw [hsettle]

/-- The analysis that is in use stays in use. -/
@[simp] theorem settle_loaded (s : Session) (f : Fetch) (answer : Except Fault f.query.Answer) :
    (s.settle f answer).loaded = s.loaded := by
  obtain ⟨_, _, _, _, _, hsettle⟩ := settle_eq s f answer
  rw [hsettle]

/-! ### Opening a function -/

/-- To open a function is to select it, and to make its requests. -/
theorem openFunction_eq_perform (s : Session) (owner : Option Contract) (functionId : Int) :
    s.openFunction owner functionId =
      ({ s with selection := s.selection.atFunction functionId (owner.map Contract.id) }).perform
        (Selection.functionRequests s.hasSummary functionId) := rfl

/-- A function that is opened is selected. -/
@[simp] theorem openFunction_functionId (s : Session) (owner : Option Contract) (functionId : Int) :
    (s.openFunction owner functionId).2.selection.functionId = some functionId := by
  rw [openFunction_eq_perform, perform_selection]
  rfl

/-- The analysis that is in use stays in use. -/
@[simp] theorem openFunction_loaded (s : Session) (owner : Option Contract) (functionId : Int) :
    (s.openFunction owner functionId).2.loaded = s.loaded := by
  rw [openFunction_eq_perform, perform_loaded]

/-- The contracts stay as they are. -/
@[simp] theorem openFunction_contracts (s : Session) (owner : Option Contract) (functionId : Int) :
    (s.openFunction owner functionId).2.contracts = s.contracts := by
  rw [openFunction_eq_perform, perform_contracts]

/-! ### First turns -/

/-- How the first turn of a dispatched event can go while contracts are loaded. -/
inductive FirstTurn (s : Session) (contracts : List Contract) (event : NavigationEvent) :
    Turn × Session → Prop
  /-- Nothing is selected: the event is applied at once. -/
  | steer (h : event.selects = false) : FirstTurn s contracts event (.finished, (s.navigate event).1)
  | unknownContract (id : Int) (hevent : event = .selectContract id)
      (hfind : Contract.withId? contracts id = none) :
      FirstTurn s contracts event (.failed (.unknownContract id), s)
  /-- A contract is selected before its analysis is there. -/
  | contractFirst (id : Int) (c : Contract) (hevent : event = .selectContract id)
      (hfind : Contract.withId? contracts id = some c) (hneeds : s.needsAnalysis c = true) :
      FirstTurn s contracts event
        (.waiting (.contractAnalysis c [.source id none]), (s.navigate (.selectContract id)).1)
  | contractNow (id : Int) (c : Contract) (hevent : event = .selectContract id)
      (hfind : Contract.withId? contracts id = some c) (hneeds : s.needsAnalysis c = false) :
      FirstTurn s contracts event ((s.navigate (.selectContract id)).1.perform [.source id none])
  /-- A function is selected only when the analysis of its owner is there. -/
  | analysisFirst (functionId : Int) (owner : Contract) (hevent : event.function? = some functionId)
      (hfind : Contract.ownerOf? contracts functionId = some owner)
      (hneeds : s.needsAnalysis owner = true) :
      FirstTurn s contracts event (.waiting (.ownerAnalysis owner functionId), s)
  | functionNow (functionId : Int) (owner : Option Contract)
      (hevent : event.function? = some functionId)
      (hfind : Contract.ownerOf? contracts functionId = owner)
      (hneeds : ∀ c, owner = some c → s.needsAnalysis c = false) :
      FirstTurn s contracts event (s.openFunction owner functionId)

variable {contracts : List Contract} {event : NavigationEvent}

/-- A contract is looked up and selected, and its analysis is waited for if it must be fetched. -/
theorem firstTurn_selectContract (s : Session) (contracts : List Contract) (id : Int) :
    FirstTurn s contracts (.selectContract id) (s.selectContract contracts id) := by
  unfold selectContract
  split
  · rename_i hfind
    exact .unknownContract id rfl hfind
  · rename_i c hfind
    -- The only request of a selected contract is its source.
    show FirstTurn s contracts _
      (if s.needsAnalysis c then
        (.waiting (.contractAnalysis c [.source id none]), (s.navigate (.selectContract id)).1)
      else (s.navigate (.selectContract id)).1.perform [.source id none])
    split
    · rename_i hneeds
      exact .contractFirst id c rfl hfind hneeds
    · rename_i hneeds
      exact .contractNow id c rfl hfind (by simpa using hneeds)

/-- The owner of a function is looked up, and the function is selected unless an analysis must be fetched
    first. -/
theorem firstTurn_selectFunction (s : Session) (contracts : List Contract) {functionId : Int}
    (hevent : event.function? = some functionId) :
    FirstTurn s contracts event (s.selectFunction contracts functionId) := by
  unfold selectFunction
  split
  · rename_i hfind
    exact .functionNow functionId none hevent hfind (fun c hc => by cases hc)
  · rename_i owner hfind
    split
    · rename_i hneeds
      exact .analysisFirst functionId owner hevent hfind hneeds
    · rename_i hneeds
      refine .functionNow functionId (some owner) hevent hfind ?_
      intro c hc
      cases hc
      simpa using hneeds

/-- **Inversion.** The first turn of a dispatched event goes in one of six ways. -/
theorem firstTurn_of_begin (hcontracts : s.contracts = some contracts) {turn : Turn × Session}
    (h : s.begin (.dispatch event) = turn) : FirstTurn s contracts event turn := by
  subst h
  unfold begin
  simp only [hcontracts]
  cases event with
  | selectContract id => exact firstTurn_selectContract s contracts id
  | selectFunction id contract => exact firstTurn_selectFunction s contracts rfl
  | navigateToFunction id contract => exact firstTurn_selectFunction s contracts rfl
  | selectPath k => exact .steer rfl
  | highlightStep k => exact .steer rfl
  | backToOverview => exact .steer rfl
  | switchMode mode => exact .steer rfl
  | inspectVariable id name => exact .steer rfl
  | selectLine line => exact .steer rfl

end Session

end RangeAudit
