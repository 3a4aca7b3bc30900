import RangeAudit.Proofs.Interleaving.MemoCoherence
import RangeAudit.Proofs.Interleaving.Provenance
import RangeAudit.Proofs.Session.Views
import RangeAudit.Proofs.Session.Visit

namespace RangeAudit

/-!
# Sessions at rest

Between calls that do not overlap, when everything that was sent out has come, more is known of a session
than while calls overlap.

* `Session.Visit`, `Session.visit_called` — all ways in which a dispatched event can go;
* `Session.Summarised` — detailed paths are held, and out, only for functions with a summary in the analysis
  in use;
* `Session.AtRest`, `Session.AtRest.visited` — the invariant, and the step lemma: it holds again after an
  event, whether the call was finished or has failed.
-/

namespace Session

variable {engine : Oracle} {contracts : List Contract} {s t : Session} {event : NavigationEvent}

/-! ### How an event can go -/

/-- How a dispatched event can go. -/
inductive Visit (engine : Oracle) (contracts : List Contract) (s : Session) (event : NavigationEvent) :
    Outcome × Session → Prop
  | steer (h : event.selects = false) : Visit engine contracts s event (.ok (), (s.navigate event).1)
  | unknownContract (id : Int) (hevent : event = .selectContract id)
      (hfind : Contract.withId? contracts id = none) :
      Visit engine contracts s event (.error (.unknownContract id), s)
  /-- The contract stays selected although its analysis cannot be had. -/
  | contractUnread (id : Int) (c : Contract) (fault : Fault) (hevent : event = .selectContract id)
      (hfind : Contract.withId? contracts id = some c)
      (hanalysis : (s.atContract id).analysed engine c = .error fault) :
      Visit engine contracts s event (.error fault, s.atContract id)
  | contract (id : Int) (c : Contract) (t : Session) (hevent : event = .selectContract id)
      (hfind : Contract.withId? contracts id = some c)
      (hanalysis : (s.atContract id).analysed engine c = .ok t) :
      Visit engine contracts s event (t.entered engine id)
  | ownerless (functionId : Int) (hevent : event.function? = some functionId)
      (hfind : Contract.ownerOf? contracts functionId = none) :
      Visit engine contracts s event (s.opened engine none functionId)
  /-- The function is not selected, since the analysis of its owner cannot be had. -/
  | functionUnread (functionId : Int) (owner : Contract) (fault : Fault)
      (hevent : event.function? = some functionId)
      (hfind : Contract.ownerOf? contracts functionId = some owner)
      (hanalysis : s.analysed engine owner = .error fault) :
      Visit engine contracts s event (.error fault, s)
  | function (functionId : Int) (owner : Contract) (t : Session)
      (hevent : event.function? = some functionId)
      (hfind : Contract.ownerOf? contracts functionId = some owner)
      (hanalysis : s.analysed engine owner = .ok t) :
      Visit engine contracts s event (t.opened engine (some owner) functionId)

/-- The selection of a function goes in one of three ways: without an owner, without the owner's analysis, or
    with it. -/
theorem visit_function (hcontracts : s.contracts = some contracts) {functionId : Int}
    (hevent : event.function? = some functionId) :
    Visit engine contracts s event (s.called engine (.dispatch event)) := by
  rw [called_function hcontracts hevent]
  split
  · rename_i hfind
    exact .ownerless functionId hevent hfind
  · rename_i owner hfind
    split
    · rename_i fault hanalysis
      exact .functionUnread functionId owner fault hevent hfind hanalysis
    · rename_i t hanalysis
      exact .function functionId owner t hevent hfind hanalysis

/-- The selection of a contract goes in one of three ways: there is no such contract, its analysis cannot be
    had, or it can. -/
theorem visit_contract (hcontracts : s.contracts = some contracts) (id : Int) :
    Visit engine contracts s (.selectContract id)
      (s.called engine (.dispatch (.selectContract id))) := by
  rw [called_contract hcontracts]
  split
  · rename_i hfind
    exact .unknownContract id rfl hfind
  · rename_i c hfind
    split
    · rename_i fault hanalysis
      exact .contractUnread id c fault rfl hfind hanalysis
    · rename_i t hanalysis
      exact .contract id c t rfl hfind hanalysis

/-- **Inversion.** A dispatched event goes in one of seven ways. -/
theorem visit_called (hcontracts : s.contracts = some contracts) (event : NavigationEvent) :
    Visit engine contracts s event (s.called engine (.dispatch event)) := by
  cases event with
  | selectContract id => exact visit_contract hcontracts id
  | selectFunction id contract => exact visit_function hcontracts rfl
  | navigateToFunction id contract => exact visit_function hcontracts rfl
  | _ =>
    rw [called_steer hcontracts rfl]
    exact .steer rfl

/-- What a change of the selection, an analysis and a source keep, holds until fetches are sent out.  So what
    follows from it, and what sending out fetches makes of it, holds when an event has been dispatched. -/
theorem Visit.preserve {P Q : Session → Prop}
    (hselection : ∀ (s : Session) (selection : Selection), P s → P { s with selection := selection })
    (hanalysis : ∀ (s : Session) (name : String) (a : Analysis), P s → P (s.useAnalysis name a))
    (hpresent : ∀ (s : Session) (node : Int) (source : MappedSource), P s → P (s.present (some node) source))
    (hsent : ∀ (s : Session) (functionId : Int), P s → Q (s.sentFor functionId))
    (hkept : ∀ s, P s → Q s) {r : Outcome × Session} (h : Visit engine contracts s event r) (hs : P s) :
    Q r.2 := by
  have hanalysed : ∀ {s t : Session} {c : Contract}, s.analysed engine c = .ok t → P s → P t := by
    intro s t c hok hs
    rcases analysed_eq_ok hok with ⟨-, rfl⟩ | ⟨-, a, -, rfl⟩
    · exact hs
    · exact hanalysis s c.name a hs
  have hopened : ∀ (s : Session) (owner : Option Contract) (functionId : Int), P s →
      Q (s.opened engine owner functionId).2 := by
    intro s owner functionId hs
    have hselected := hselection s (s.selection.atFunction functionId (owner.map Contract.id)) hs
    unfold opened
    split
    · exact hkept _ hselected
    · exact hsent _ functionId (hpresent _ functionId _ hselected)
  -- The analysis is used before a function is selected, but after a contract is.
  cases h with
  | steer h => exact hkept _ (hselection s _ hs)
  | unknownContract => exact hkept _ hs
  | contractUnread id => exact hkept _ (hselection s _ hs)
  | contract id c t hevent hfind hok =>
    have ht := hanalysed hok (hselection s _ hs)
    unfold entered
    split
    · exact hkept _ ht
    · exact hkept _ (hpresent t id _ ht)
  | ownerless functionId => exact hopened s none functionId hs
  | functionUnread => exact hkept _ hs
  | function functionId owner t hevent hfind hok => exact hopened t _ functionId (hanalysed hok hs)

/-! ### What calls and fetches leave alone -/

/-- An event leaves the contracts alone. -/
theorem contracts_called (hcontracts : s.contracts = some contracts) (event : NavigationEvent) :
    (s.called engine (.dispatch event)).2.contracts = some contracts := by
  refine (visit_called hcontracts event).preserve (P := fun s => s.contracts = some contracts)
    (Q := fun s => s.contracts = some contracts) ?_ ?_ ?_ ?_ ?_ hcontracts
  · exact fun s selection hs => hs
  · exact fun s name a hs => hs
  · exact fun s node source hs => hs
  · intro s functionId hs
    rcases sentFor_cases s functionId with ⟨-, hsent⟩ | ⟨-, hsent⟩ <;>
      exact (congrArg Session.contracts hsent).trans hs
  · exact fun s hs => hs

/-- While nothing is out, an event sends out only what bears a new ticket. -/
theorem ticket_called (hcontracts : s.contracts = some contracts) (hidle : s.fetches = [])
    (event : NavigationEvent) :
    ∀ f ∈ (s.called engine (.dispatch event)).2.fetches, s.nextTicket ≤ f.ticket := by
  -- Until the last move of the visit no fetch is out; that move sends them, with tickets from then on.
  refine (visit_called hcontracts event).preserve
    (P := fun t => t.fetches = [] ∧ s.nextTicket ≤ t.nextTicket)
    (Q := fun t => ∀ f ∈ t.fetches, s.nextTicket ≤ f.ticket) ?_ ?_ ?_ ?_ ?_ ⟨hidle, Nat.le_refl _⟩
  · exact fun t selection ht => ht
  · exact fun t name a ht => ht
  · exact fun t node source ht => ht
  · rintro t functionId ⟨hidle, hticket⟩ f hf
    rcases sentFor_cases t functionId with ⟨-, hsent⟩ | ⟨-, hsent⟩
    · rw [hsent, hidle] at hf
      have hf : f = ⟨t.nextTicket, .flowGraph, functionId⟩ ∨
          f = ⟨t.nextTicket + 1, .detail, functionId⟩ := by simpa using hf
      rcases hf with rfl | rfl
      · exact hticket
      · exact Nat.le_succ_of_le hticket
    · rw [hsent, hidle] at hf
      have hf : f = ⟨t.nextTicket, .flowGraph, functionId⟩ := by simpa using hf
      subst hf
      exact hticket
  · rintro t ⟨hidle, -⟩ f hf
    rw [hidle] at hf
    exact absurd hf List.not_mem_nil

/-- The turns of a call are sequences of changes that take over the engine's answers. -/
theorem changes_completed (engine : Oracle) (s : Session) (turn : Turn) :
    Changes (fun q v => engine q = .ok v) s (completed engine s turn).2 := by
  induction s, turn using completed.induct engine with
  | case1 s => rw [completed_finished]
  | case2 s fault => rw [completed_failed]
  | case3 s w next ih =>
    rw [completed_waiting]
    exact (changes_resume s w (engine w.query) fun v hv => hv).trans ih

/-- A call is a sequence of changes that take over the engine's answers. -/
theorem changes_called (engine : Oracle) (s : Session) (command : Command) :
    Changes (fun q v => engine q = .ok v) s (s.called engine command).2 :=
  (changes_begin s command).trans (changes_completed engine _ _)

/-- So is all that comes in the background. -/
theorem changes_settled (engine : Oracle) (s : Session) :
    Changes (fun q v => engine q = .ok v) s (s.settled engine) := by
  refine (settled_invariant (P := Changes (fun q v => engine q = .ok v) s) ?_ .refl).1
  intro t f _ ht
  exact ht.trans (changes_settle t f (engine f.query) fun v hv => hv)

/-- A call, and the fetches after it, are a sequence of changes. -/
theorem changes_visited (engine : Oracle) (s : Session) (command : Command) :
    Changes (fun q v => engine q = .ok v) s ((s.called engine command).2.settled engine) :=
  (changes_called engine s command).trans (changes_settled engine _)

/-! ### Detailed paths -/

/-- Detailed paths are held, and are out, only for functions with a summary in the analysis in use. -/
structure Summarised (s : Session) : Prop where
  held : ∀ entry ∈ s.details, s.hasSummary entry.1
  out : ∀ f ∈ s.fetches, f.aim = .detail → s.hasSummary f.functionId

/-- Another analysis forgets the details of the one before it. -/
theorem summarised_useAnalysis (hidle : s.fetches = []) (name : String) (a : Analysis) :
    (s.useAnalysis name a).Summarised := by
  refine ⟨fun entry hentry => absurd hentry List.not_mem_nil, fun f hf => ?_⟩
  have hf : f ∈ s.fetches := hf
  rw [hidle] at hf
  exact absurd hf List.not_mem_nil

/-- They are sent for only if the function has a summary. -/
theorem Summarised.sentFor (h : s.Summarised) (functionId : Int) : (s.sentFor functionId).Summarised := by
  rcases sentFor_cases s functionId with ⟨hsummary, hsent⟩ | ⟨-, hsent⟩ <;> rw [hsent]
  · refine ⟨h.held, ?_⟩
    intro f hf haim
    rcases List.mem_append.mp hf with hold | hnew
    · exact h.out f hold haim
    · have hnew : f = ⟨s.nextTicket, .flowGraph, functionId⟩ ∨
          f = ⟨s.nextTicket + 1, .detail, functionId⟩ := by simpa using hnew
      rcases hnew with rfl | rfl
      · cases haim
      · exact hsummary
  · refine ⟨h.held, ?_⟩
    intro f hf haim
    rcases List.mem_append.mp hf with hold | hnew
    · exact h.out f hold haim
    · rw [List.mem_singleton.mp hnew] at haim
      cases haim

/-- While nothing is out, an event leaves detailed paths only where there is a summary: another analysis is
    used before anything is sent out. -/
theorem summarised_called (engine : Oracle) (hcontracts : s.contracts = some contracts) (h : s.Summarised)
    (hidle : s.fetches = []) (event : NavigationEvent) :
    (s.called engine (.dispatch event)).2.Summarised := by
  refine (visit_called hcontracts event).preserve (P := fun s => s.Summarised ∧ s.fetches = [])
    (Q := Summarised) ?_ ?_ ?_ ?_ ?_ ⟨h, hidle⟩
  · rintro s selection ⟨h, hidle⟩
    exact ⟨⟨h.held, h.out⟩, hidle⟩
  · rintro s name a ⟨-, hidle⟩
    exact ⟨summarised_useAnalysis hidle name a, hidle⟩
  · rintro s node source ⟨h, hidle⟩
    exact ⟨⟨h.held, h.out⟩, hidle⟩
  · exact fun s functionId hs => hs.1.sentFor functionId
  · exact fun s hs => hs.1

/-- What has come was out. -/
theorem Summarised.settle (h : s.Summarised) (f : Fetch)
    (answer : Except Fault f.query.Answer) : (s.settle f answer).Summarised := by
  have hsummary : ∀ id, (s.settle f answer).hasSummary id = s.hasSummary id := by
    intro id
    rw [hasSummary, hasSummary, analysis?, analysis?, settle_loaded]
  refine ⟨?_, ?_⟩
  · intro entry hentry
    rw [hsummary]
    rcases (s.received_settle f answer).mem_details hentry with hold | ⟨hf, haim, hid⟩
    · exact h.held entry hold
    · rw [hid]
      exact h.out f hf haim
  · intro g hg haim
    rw [settle_fetches] at hg
    rw [hsummary]
    exact h.out g (List.mem_of_mem_erase hg) haim

/-! ### Rest -/

/-- What is known of a session when no call is under way and nothing is out. -/
structure AtRest (engine : Oracle) (contracts : List Contract) (s : Session) : Prop where
  contracts : s.contracts = some contracts
  undrilled : s.planted = []
  memo : s.MemoCoherent
  provenance : s.Provenance engine
  summarised : s.Summarised
  idle : s.fetches = []

namespace AtRest

/-- A session at rest shows its views. -/
theorem ready (h : s.AtRest engine contracts) : s.Ready :=
  ⟨by rw [h.contracts]; rfl, h.undrilled, h.memo⟩

/-- A session that has just loaded contracts is at rest, whatever it was before. -/
theorem entered (engine : Oracle) (contracts : List Contract) (hundrilled : s.planted = []) :
    ({ s.unload with contracts := some contracts } : Session).AtRest engine contracts where
  contracts := rfl
  undrilled := hundrilled
  memo := memoCoherent_of_memo_empty rfl
  provenance := provenance_blank rfl rfl rfl rfl
  summarised := ⟨fun _ hentry => absurd hentry List.not_mem_nil, fun _ hf => absurd hf List.not_mem_nil⟩
  idle := rfl

/-- Reading a view leaves a session at rest. -/
theorem read (h : s.AtRest engine contracts) (view : KeptView) : (s.read view).AtRest engine contracts := by
  have hmemo := h.memo.read view
  have hprovenance := h.provenance.read view
  obtain ⟨memo, hread⟩ := s.read_eq view
  rw [hread] at hmemo hprovenance ⊢
  exact ⟨h.contracts, h.undrilled, hmemo, hprovenance, ⟨h.summarised.held, h.summarised.out⟩, h.idle⟩

/-- **Step lemma.** When an event has been dispatched and everything that it has sent out has come, the session
    is at rest again, whether the call was finished or has failed. -/
theorem visited (h : s.AtRest engine contracts) (event : NavigationEvent) :
    ((s.called engine (.dispatch event)).2.settled engine).AtRest engine contracts := by
  -- The contracts and the summaries need the way in which the event went, the rest only that it changed the
  -- session step by step.
  have hchanges := changes_visited engine s (.dispatch event)
  have hsummarised := summarised_called engine h.contracts h.summarised h.idle event
  refine ⟨?_, ?_, ?_, ?_, ?_, settled_fetches engine _⟩
  · obtain ⟨_, _, _, _, _, hsettled⟩ := settled_eq engine (s.called engine (.dispatch event)).2
    rw [hsettled]
    exact contracts_called h.contracts event
  · exact hchanges.planted_eq.trans h.undrilled
  · exact hchanges.preserve (fun hchange hs => hchange.memoCoherent hs) h.memo
  · exact hchanges.preserve (fun hchange hs => hchange.provenance hs) h.provenance
  · exact (settled_invariant (fun t f _ ht => ht.settle f (engine f.query)) hsummarised).1

end AtRest

end Session

end RangeAudit
