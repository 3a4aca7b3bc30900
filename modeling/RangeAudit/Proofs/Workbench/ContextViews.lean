import RangeAudit.Proofs.Interleaving.Unloading
import RangeAudit.Proofs.Workbench.History

namespace RangeAudit

/-!
# Whose context a workbench shows

While no function is selected, the context views show the whole analysis that is in use.  It goes out of use
when another one is taken up, or with the contracts; so a contract that cannot be analysed, when it is
selected, leaves in use the analysis of the contract before it.

* `Session.ContextOf` — the context views are those of a contract, and empty if it cannot be analysed;
* `Workbench.Errand`, `Workbench.Succeeds` — what is done at a workbench from the very beginning, while no
  event fails;
* `lastAnalysed?` — the contract that was visited last among those that can be analysed;
* `Session.Follows`, `Workbench.follows_run` — the analysis in use is that of this contract, and it is the
  selected one if that can be analysed;
* `Workbench.contextOf_selected_iff` — hence the context views are those of the selected contract if and only
  if it can be analysed, or the contract visited last has nothing to show in them.

`Workbench.not_always_contextOf` is a visit to an interface.
-/

namespace Session

/-- The context views show the whole of an analysis. -/
structure ShowsContext (s : Session) (a : Analysis) : Prop where
  callGraph : s.callGraph = .ok a.callGraph
  stateAccesses : s.stateAccesses = .ok a.stateAccesses
  globalRanges : s.globalRanges = .ok a.globalRanges

/-- The context views are those of a contract: of its own analysis if it can be analysed, else empty. -/
def ContextOf (engine : Oracle) (c : Contract) (s : Session) : Prop :=
  if c.analyzable then ∃ a, engine (.analysis c.name) = .ok a ∧ s.ShowsContext a else s.ShowsContext {}

end Session

/-- The analysis of a contract, if it can be had, leaves the context views empty. -/
def Oracle.WithoutContext (engine : Oracle) (c : Contract) : Prop :=
  ∀ a, engine (.analysis c.name) = .ok a → a.callGraph = {} ∧ a.stateAccesses = [] ∧ a.globalRanges = []

namespace Workbench

/-- What is done at a workbench from the very beginning, one thing after the other. -/
inductive Errand where
  | load
  | unload
  | act (a : Act)
  deriving DecidableEq, Inhabited

/-- The workbench after an errand. -/
def errand (b : Workbench) : Errand → Workbench
  | .load => b.load.2
  | .unload => b.unload
  | .act a => b.act a

/-- The workbench after a run of errands. -/
def run (b : Workbench) (errands : List Errand) : Workbench :=
  errands.foldl errand b

/-- No event of a run fails. -/
def Succeeds (b : Workbench) : List Errand → Prop
  | [] => True
  | .act (.visit event) :: rest =>
    (b.dispatch event).1.isOk = true ∧ (b.errand (.act (.visit event))).Succeeds rest
  | e :: rest => (b.errand e).Succeeds rest

/-- The contract visited last among those that can be analysed, after an errand. -/
def Errand.analysed? (contracts : List Contract) (last : Option Contract) : Errand → Option Contract
  | load | unload => none
  | act (.visit event) => ((event.contract? contracts).filter Contract.analyzable).or last
  | act (.read _) => last

end Workbench

/-- The contract visited last among those that can be analysed, since the contracts were loaded. -/
def lastAnalysed? (contracts : List Contract) (errands : List Workbench.Errand) : Option Contract :=
  errands.foldl (Workbench.Errand.analysed? contracts) none

/-! ### The analysis in use -/

namespace Session

/-- The analysis in use is the engine's for a contract; without a contract, none is in use. -/
def InUse (engine : Oracle) (s : Session) : Option Contract → Prop
  | none => s.loaded = none
  | some c => ∃ a, engine (.analysis c.name) = .ok a ∧ s.loaded = some ⟨c.name, a⟩

/-- The analysis in use is that of the contract visited last among those that can be analysed; and if a
    contract is selected that can be analysed, it is this one. -/
structure Follows (engine : Oracle) (contracts : List Contract) (last : Option Contract) (s : Session) :
    Prop where
  inUse : s.InUse engine last
  selected : s.selection.functionId = none → ∀ c, s.selection.contract? contracts = some c →
    c.analyzable = true → last = some c

variable {engine : Oracle} {contracts : List Contract} {last : Option Contract} {s t : Session}
  {event : NavigationEvent} {c : Contract}

/-- Which analysis is in use depends on what is loaded only. -/
theorem inUse_of_loaded_eq (h : s.InUse engine last) (hloaded : t.loaded = s.loaded) :
    t.InUse engine last := by
  cases last with
  | none => exact hloaded.trans h
  | some c =>
    obtain ⟨a, ha, hs⟩ := h
    exact ⟨a, ha, hloaded.trans hs⟩

/-- Only the analysis in use and the selection matter. -/
theorem Follows.congr (h : s.Follows engine contracts last) (hloaded : t.loaded = s.loaded)
    (hselection : t.selection = s.selection) : t.Follows engine contracts last :=
  ⟨inUse_of_loaded_eq h.inUse hloaded, by rw [hselection]; exact h.selected⟩

/-- Nothing is in use and nothing is selected. -/
theorem follows_none (hloaded : s.loaded = none) (hselection : s.selection = {}) :
    s.Follows engine contracts none := by
  refine ⟨hloaded, fun _ c hc => ?_⟩
  rw [hselection] at hc
  cases hc

/-- The analysis of a contract that can be analysed is in use after it was asked for; one that cannot be
    analysed asks for none. -/
theorem inUse_analysed (hprovenance : s.Provenance engine) (h : s.InUse engine last)
    (hok : s.analysed engine c = .ok t) :
    t.InUse engine (((some c).filter Contract.analyzable).or last) := by
  cases hanalyzable : c.analyzable with
  | true =>
    rw [Option.filter_some_pos hanalyzable]
    exact hprovenance.loaded_of_analysed hanalyzable hok
  | false =>
    rw [Option.filter_some_neg hanalyzable, Option.none_or]
    rcases analysed_eq_ok hok with ⟨-, rfl⟩ | ⟨hneeds, -⟩
    · exact h
    · simp [needsAnalysis, hanalyzable] at hneeds

/-- **Step lemma.** An event that does not fail takes up the analysis of the contract that it visits, if this
    can be analysed. -/
theorem Follows.called (h : s.Follows engine contracts last) (hrest : s.AtRest engine contracts)
    (hok : (s.called engine (.dispatch event)).1.isOk = true) :
    (s.called engine (.dispatch event)).2.Follows engine contracts
      (((event.contract? contracts).filter Contract.analyzable).or last) := by
  have hvisit : Visit engine contracts s event (s.called engine (.dispatch event)) :=
    visit_called hrest.contracts event
  generalize s.called engine (.dispatch event) = r at hok hvisit
  -- A selected function leaves nothing to be shown for the contract.
  have hfunction : ∀ (t : Session) (owner : Option Contract) (functionId : Int),
      event.contract? contracts = owner →
      t.InUse engine ((owner.filter Contract.analyzable).or last) →
      (t.opened engine owner functionId).2.Follows engine contracts
        (((event.contract? contracts).filter Contract.analyzable).or last) := by
    intro t owner functionId howner ht
    rw [howner]
    refine ⟨inUse_of_loaded_eq ht (opened_loaded engine t owner functionId), fun hnone => ?_⟩
    rw [opened_selection] at hnone
    cases hnone
  cases hvisit with
  | steer hevent =>
    rw [NavigationEvent.contract?_of_not_selects hevent, Option.filter_none, Option.none_or]
    refine ⟨inUse_of_loaded_eq h.inUse rfl, fun hnone c hc => ?_⟩
    rw [contract?_navigate hevent] at hc
    have hids := s.selection.apply_of_not_selects s.hasSummary hevent
    exact h.selected (hids.2.symm.trans hnone) c hc
  | unknownContract => cases hok
  | contractUnread => cases hok
  | contract id c t hevent hfind hanalysis =>
    subst hevent
    have hasked : NavigationEvent.contract? contracts (.selectContract id) = some c := hfind
    have hprovenance : (s.atContract id).Provenance engine := hrest.provenance.congr rfl rfl rfl rfl
    have hinUse := inUse_analysed hprovenance (inUse_of_loaded_eq h.inUse rfl) hanalysis
    have hselection : t.selection = { contractId := some id } := by
      rcases analysed_eq_ok hanalysis with ⟨-, rfl⟩ | ⟨-, a, -, rfl⟩ <;> rfl
    rw [hasked]
    refine ⟨inUse_of_loaded_eq hinUse (entered_loaded engine t id), fun _ d hd hanalyzable => ?_⟩
    rw [entered_selection, hselection] at hd
    have hsame : c = d := Option.some.inj (hfind.symm.trans hd)
    rw [hsame, Option.filter_some_pos hanalyzable, Option.some_or]
  | ownerless functionId hevent hfind =>
    exact hfunction s none functionId ((NavigationEvent.contract?_of_function hevent).trans hfind) h.inUse
  | functionUnread => cases hok
  | function functionId owner t hevent hfind hanalysis =>
    exact hfunction t (some owner) functionId ((NavigationEvent.contract?_of_function hevent).trans hfind)
      (inUse_analysed hrest.provenance h.inUse hanalysis)

/-! ### What the context views show -/

/-- While no function is selected, the context views show the whole analysis in use. -/
theorem showsContext_iff (hready : s.Ready) (hfunction : s.selection.functionId = none) (a : Analysis) :
    s.ShowsContext a ↔ (s.analysis?.getD {}).callGraph = a.callGraph ∧
      (s.analysis?.getD {}).stateAccesses = a.stateAccesses ∧
      (s.analysis?.getD {}).globalRanges = a.globalRanges := by
  -- With no function selected the views are those of the whole analysis.
  have hgraph : s.callGraph = .ok (s.analysis?.getD {}).callGraph := by
    rw [Session.callGraph, hready.contractList_map, hfunction]
    rfl
  have haccesses : s.stateAccesses = .ok (s.analysis?.getD {}).stateAccesses := by
    rw [Session.stateAccesses, hready.contractList_map, hfunction]
    rfl
  have hranges : s.globalRanges = .ok (s.analysis?.getD {}).globalRanges := by
    rw [Session.globalRanges, hready.contractList_map, hfunction]
    rfl
  constructor
  · intro h
    exact ⟨Except.ok.inj (hgraph.symm.trans h.callGraph),
      Except.ok.inj (haccesses.symm.trans h.stateAccesses),
      Except.ok.inj (hranges.symm.trans h.globalRanges)⟩
  · rintro ⟨h, h', h''⟩
    exact ⟨hgraph.trans (congrArg _ h), haccesses.trans (congrArg _ h'), hranges.trans (congrArg _ h'')⟩

/-- While a contract is selected and no function, the context views are those of the contract if and only if
    it can be analysed, or what is in use has nothing to show. -/
theorem Follows.contextOf_iff (h : s.Follows engine contracts last) (hready : s.Ready)
    (hfunction : s.selection.functionId = none) (hcontract : s.selection.contract? contracts = some c) :
    s.ContextOf engine c ↔
      c.analyzable = true ∨ ∀ d, last = some d → engine.WithoutContext d := by
  unfold ContextOf
  cases hanalyzable : c.analyzable with
  | true =>
    -- The contract was visited last itself, so its own analysis is in use.
    have hinUse := h.inUse
    rw [h.selected hfunction c hcontract hanalyzable] at hinUse
    obtain ⟨a, ha, hloaded⟩ := hinUse
    refine iff_of_true ?_ (.inl rfl)
    rw [if_pos rfl]
    refine ⟨a, ha, (showsContext_iff hready hfunction a).mpr ?_⟩
    simp [analysis?, hloaded]
  | false =>
    have hnothing : s.ShowsContext {} ↔ ∀ d, last = some d → engine.WithoutContext d := by
      rw [showsContext_iff hready hfunction]
      have hinUse := h.inUse
      cases last with
      | none =>
        have hloaded : s.loaded = none := hinUse
        simp [analysis?, hloaded]
      | some d =>
        obtain ⟨a, ha, hloaded⟩ := hinUse
        simp [analysis?, hloaded, Oracle.WithoutContext, ha]
    simpa using hnothing

end Session

/-! ### Runs -/

namespace Workbench

variable {archive : Archive} {b : Workbench} {last : Option Contract}

/-- What is known of a workbench between errands: its session is blank or at rest, and which contract was
    visited last. -/
structure Follows (archive : Archive) (last : Option Contract) (b : Workbench) : Prop where
  idle : b.Idle archive
  phase : b.session.Blank ∨ b.AtRest archive
  session : b.session.Follows archive.oracle archive.contracts last

/-- Nothing can be dispatched while no contracts are loaded. -/
theorem dispatch_of_blank (h : b.session.Blank) (event : NavigationEvent) :
    (b.dispatch event).1.isOk = false := by
  simp [dispatch, call, Session.begin, h.contracts, drive, Except.isOk, Except.toBool]

/-- **Step lemma.** What is known of a workbench is known after an errand, if that is no event that fails. -/
theorem Follows.errand (h : b.Follows archive last) (e : Errand)
    (hok : ∀ event, e = .act (.visit event) → (b.dispatch event).1.isOk = true) :
    (b.errand e).Follows archive (e.analysed? archive.contracts last) := by
  cases e with
  | load =>
    obtain ⟨-, hsession, hrest⟩ := h.idle.load
    refine ⟨hrest.idle, .inr hrest, ?_⟩
    show Session.Follows archive.oracle archive.contracts none b.load.2.session
    rw [hsession]
    exact Session.follows_none rfl rfl
  | unload =>
    exact ⟨h.idle.unload, .inl b.session.blank_unload, Session.follows_none rfl rfl⟩
  | act a =>
    cases a with
    | visit event =>
      have hok := hok event rfl
      rcases h.phase with hblank | hrest
      · rw [dispatch_of_blank hblank] at hok
        cases hok
      · -- The visit settles after its call, and settling leaves analysis and selection as they are.
        obtain ⟨houtcome, hsession, hrest'⟩ := hrest.visit event
        rw [houtcome] at hok
        have hcalled := h.session.called hrest.session hok
        refine ⟨hrest'.idle, .inr hrest', ?_⟩
        show Session.Follows _ _ _ (b.dispatch event).2.settle.session
        rw [hsession]
        obtain ⟨_, _, _, _, _, hsettled⟩ := Session.settled_eq archive.oracle
          (b.session.called archive.oracle (.dispatch event)).2
        rw [hsettled]
        exact hcalled.congr rfl rfl
    | read view =>
      refine ⟨h.idle.read view, ?_, ?_⟩
      · rcases h.phase with hblank | hrest
        · exact .inl (hblank.read view)
        · exact .inr (hrest.read view)
      · exact h.session.congr (Session.read_loaded ..) (Session.read_selection ..)

/-- **Run lemma.** What is known of a workbench is known after every run without an event that fails. -/
theorem follows_run (h : b.Follows archive last) {errands : List Errand} (hok : b.Succeeds errands) :
    (b.run errands).Follows archive (errands.foldl (Errand.analysed? archive.contracts) last) := by
  induction errands generalizing b last with
  | nil => exact h
  | cons e rest ih =>
    cases e with
    | load => exact ih (h.errand .load fun _ heq => by cases heq) hok
    | unload => exact ih (h.errand .unload fun _ heq => by cases heq) hok
    | act a =>
      cases a with
      | visit event =>
        refine ih (h.errand (.act (.visit event)) fun other heq => ?_) hok.2
        cases heq
        exact hok.1
      | read view => exact ih (h.errand (.act (.read view)) fun _ heq => by cases heq) hok

/-- A fresh workbench follows no contract. -/
theorem follows_fresh (archive : Archive) (config : Config) :
    (fresh (Engine.fresh archive) config).Follows archive none :=
  ⟨idle_fresh archive config, .inl ⟨⟨rfl, rfl, rfl, rfl⟩, rfl, rfl⟩, Session.follows_none rfl rfl⟩

/-- **Context views, as far as they follow the selection.** Take any run at a workbench in which no event
    fails and everything that an event has sent out comes before the next one.  Whenever a contract is
    selected and no function, the call graph, the state accesses and the global ranges are those of the
    contract if and only if it can be analysed, or the contract visited last among those that can be analysed
    has none of them. -/
theorem contextOf_selected_iff (archive : Archive) (config : Config) {errands : List Errand}
    (hok : (fresh (Engine.fresh archive) config).Succeeds errands) {c : Contract}
    (hfunction :
      ((fresh (Engine.fresh archive) config).run errands).session.selection.functionId = none)
    (hcontract : ((fresh (Engine.fresh archive) config).run errands).session.selection.contract?
      archive.contracts = some c) :
    ((fresh (Engine.fresh archive) config).run errands).session.ContextOf archive.oracle c ↔
      c.analyzable = true ∨
        ∀ d, lastAnalysed? archive.contracts errands = some d → archive.oracle.WithoutContext d := by
  have hfollows := follows_run (follows_fresh archive config) hok
  rcases hfollows.phase with hblank | hrest
  · rw [hblank.selection] at hcontract
    cases hcontract
  · exact hfollows.session.contextOf_iff hrest.session.ready hfunction hcontract

/-- It has a function, but it cannot be analysed. -/
def interface : Contract :=
  { id := 2, name := "IToken", kind := "interface", functions := [{ id := 20, name := "mint" }] }

/-- A contract with a function, and an interface. -/
def tokenAndInterface : Archive where
  contracts := [{ id := 1, name := "Token", functions := [{ id := 10, name := "mint" }] }, interface]
  analyses :=
    [("Token", .obj
      [("callGraph", .obj [("nodes", .arr [.obj [("id", .int 10), ("name", .str "mint")]])])])]
  sources :=
    [(1, .obj [("source", .str "contract Token")]), (2, .obj [("source", .str "interface IToken")])]

/-- The interface is selected after the contract. -/
def toInterface : List Errand :=
  [.load, .act (.visit (.selectContract 1)), .act (.visit (.selectContract 2))]

/-- Everything in this run succeeds. -/
theorem succeeds_toInterface :
    (fresh (Engine.fresh tokenAndInterface) {}).Succeeds toInterface := by
  refine ⟨?_, ?_, trivial⟩ <;> decide +kernel

/-- The interface cannot be analysed, and the contract that was selected before has a context. -/
theorem contextOf_selected_iff_of_toInterface :
    (fresh (Engine.fresh tokenAndInterface) {}).Succeeds toInterface ∧
      ((fresh (Engine.fresh tokenAndInterface) {}).run toInterface).session.selection.functionId = none ∧
      ((fresh (Engine.fresh tokenAndInterface) {}).run toInterface).session.selection.contract?
        tokenAndInterface.contracts = some interface ∧
      (((fresh (Engine.fresh tokenAndInterface) {}).run toInterface).session.ContextOf
          tokenAndInterface.oracle interface ↔
        interface.analyzable = true ∨ ∀ d,
          lastAnalysed? tokenAndInterface.contracts toInterface = some d →
            tokenAndInterface.oracle.WithoutContext d) := by
  have hfunction : ((fresh (Engine.fresh tokenAndInterface) {}).run
      toInterface).session.selection.functionId = none := by
    decide +kernel
  have hcontract : ((fresh (Engine.fresh tokenAndInterface) {}).run
      toInterface).session.selection.contract? tokenAndInterface.contracts = some interface := by
    decide +kernel
  exact ⟨succeeds_toInterface, hfunction, hcontract,
    contextOf_selected_iff tokenAndInterface {} succeeds_toInterface hfunction hcontract⟩

/-- **The context views need not be those of the selected contract**, even if names and ids tell contracts and
    functions apart: an interface is selected, with the call graph of the contract before it. -/
theorem not_always_contextOf :
    ¬ ∀ (archive : Archive) (config : Config) (errands : List Errand) (c : Contract),
      (archive.contracts.map Contract.name).Nodup →
      (archive.contracts.flatMap fun c => c.functions.map FunctionInfo.id).Nodup →
      (fresh (Engine.fresh archive) config).Succeeds errands →
      ((fresh (Engine.fresh archive) config).run errands).session.selection.functionId = none →
      ((fresh (Engine.fresh archive) config).run errands).session.selection.contract? archive.contracts =
        some c →
      ((fresh (Engine.fresh archive) config).run errands).session.ContextOf archive.oracle c := by
  intro h
  have hcontext := h tokenAndInterface {} toInterface interface (by decide +kernel) (by decide +kernel)
    succeeds_toInterface (by decide +kernel) (by decide +kernel)
  have hgraph := congrArg (fun view => view.toOption.map CallGraph.nodes)
    (show Session.ShowsContext _ {} from hcontext).callGraph
  exact absurd hgraph (by decide +kernel)

end Workbench

end RangeAudit
