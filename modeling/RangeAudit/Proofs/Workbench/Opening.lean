import RangeAudit.Proofs.Workbench.History
import RangeAudit.Session.Opening

namespace RangeAudit

/-!
# In which contract a function is opened

A specification of a function is resolved among the functions of all contracts, or of one if it names one, so
what it resolves to is a function together with a contract that lists it.  What is then selected is the
function, by its id alone; so it is opened in the first contract that lists it, be that the one which was
resolved or not.

* `Session.OpenIn` — a function is selected in a contract, with the analysis of the contract;
* `Session.SamePlace` — nothing of this has changed;
* `Contract.StandsFor` — opening in one contract is as good as opening in another one;
* `Workbench.openIn_owner` — a function is opened in the first contract that lists it;
* `Workbench.openIn_resolved_iff` — hence in the resolved one if and only if that stands for it.

`Workbench.not_always_openIn_resolved` is a function that two contracts list, and that is asked for in the
second one.
-/

/-- Whoever opens a function in the first contract has opened it in the second one: they have the same id, and
    if the second one can be analysed, so can the first one, under the same name. -/
structure Contract.StandsFor (owner c : Contract) : Prop where
  id : owner.id = c.id
  analysis : c.analyzable = true → owner.analyzable = true ∧ owner.name = c.name

namespace Session

variable {engine : Oracle} {contracts : List Contract} {s t u : Session} {c owner : Contract}
  {functionId : Int}

/-- A function is selected in a contract; if the contract can be analysed, its analysis is in use. -/
structure OpenIn (engine : Oracle) (c : Contract) (functionId : Int) (s : Session) : Prop where
  function : s.selection.functionId = some functionId
  contract : s.selection.contractId = some c.id
  analysis : c.analyzable = true →
    ∃ a, engine (.analysis c.name) = .ok a ∧ s.loaded = some ⟨c.name, a⟩

/-- The same contract and function are selected, among the same contracts, and the same analysis is in use. -/
structure SamePlace (s t : Session) : Prop where
  contracts : t.contracts = s.contracts
  contractId : t.selection.contractId = s.selection.contractId
  functionId : t.selection.functionId = s.selection.functionId
  loaded : t.loaded = s.loaded

/-- A session is in its own place. -/
theorem SamePlace.refl (s : Session) : s.SamePlace s :=
  ⟨rfl, rfl, rfl, rfl⟩

/-- What stays twice, stays. -/
theorem SamePlace.trans (h : s.SamePlace t) (h' : t.SamePlace u) : s.SamePlace u :=
  ⟨h'.contracts.trans h.contracts, h'.contractId.trans h.contractId, h'.functionId.trans h.functionId,
    h'.loaded.trans h.loaded⟩

/-- Where a function is open depends on nothing else. -/
theorem OpenIn.congr (h : s.OpenIn engine c functionId) (hplace : s.SamePlace t) :
    t.OpenIn engine c functionId := by
  refine ⟨hplace.functionId.trans h.function, hplace.contractId.trans h.contract, ?_⟩
  rw [hplace.loaded]
  exact h.analysis

/-- An event that selects nothing leaves the place. -/
theorem samePlace_navigate (s : Session) {event : NavigationEvent} (h : event.selects = false) :
    s.SamePlace (s.navigate event).1 := by
  obtain ⟨hcontract, hfunction⟩ := s.selection.apply_of_not_selects s.hasSummary h
  exact ⟨rfl, hcontract, hfunction, rfl⟩

/-- What is fetched in the background leaves the place. -/
theorem samePlace_settled (engine : Oracle) (s : Session) : s.SamePlace (s.settled engine) := by
  obtain ⟨_, _, _, _, _, hsettled⟩ := settled_eq engine s
  rw [hsettled]
  exact ⟨rfl, rfl, rfl, rfl⟩

/-- A function that is opened in its owner is opened in another contract if and only if the owner stands for
    it.  If the owner cannot be analysed, no analysis must be in use. -/
theorem OpenIn.iff_standsFor (h : s.OpenIn engine owner functionId)
    (hunread : owner.analyzable = false → s.loaded = none) :
    s.OpenIn engine c functionId ↔ owner.StandsFor c := by
  constructor
  · intro hc
    refine ⟨Option.some.inj (h.contract.symm.trans hc.contract), ?_⟩
    intro hanalyzable
    obtain ⟨a, -, hloaded⟩ := hc.analysis hanalyzable
    cases howner : owner.analyzable with
    -- No analysis was read for `owner`, so none can be held for `c`.
    | false => rw [hunread howner] at hloaded; cases hloaded
    | true =>
      obtain ⟨a', -, hloaded'⟩ := h.analysis howner
      have hname := congrArg (Option.map LoadedAnalysis.contract) (hloaded'.symm.trans hloaded)
      exact ⟨rfl, Option.some.inj hname⟩
  · intro hstands
    refine ⟨h.function, by rw [h.contract, hstands.id], ?_⟩
    intro hanalyzable
    obtain ⟨howner, hname⟩ := hstands.analysis hanalyzable
    rw [← hname]
    exact h.analysis howner

/-! ### Finding a function -/

/-- What a specification resolves to is a function that a contract lists, so some contract owns it. -/
theorem ownerOf?_isSome_of_findFunction (hcontracts : s.contracts = some contracts) {spec : String}
    {f : FunctionInfo} (h : s.findFunction spec = .ok (c, f)) :
    ∃ owner, Contract.ownerOf? contracts f.id = some owner := by
  have hmem : (c, f) ∈ candidates contracts spec := by
    simp only [findFunction, contractList, hcontracts] at h
    split at h
    · cases h
    · rename_i hfound
      cases h
      rw [hfound]
      exact List.mem_singleton_self _
    · cases h
  simp only [candidates, List.mem_flatMap, List.mem_filter, List.mem_map] at hmem
  obtain ⟨d, ⟨hd, -⟩, g, ⟨hg, -⟩, heq⟩ := hmem
  cases heq
  have hlists : c.lists f.id = true := by
    rw [Contract.lists, Contract.function?, List.find?_isSome]
    exact ⟨f, hg, beq_self_eq_true _⟩
  exact Option.isSome_iff_exists.mp (List.find?_isSome.mpr ⟨c, hd, hlists⟩)

/-! ### Selecting a function -/

/-- The analysis in use stays if a contract cannot be analysed. -/
theorem loaded_of_not_analyzable (hanalyzable : c.analyzable = false) (h : s.analysed engine c = .ok t) :
    t.loaded = s.loaded := by
  rcases analysed_eq_ok h with ⟨-, rfl⟩ | ⟨hneeds, -⟩
  · rfl
  · simp [needsAnalysis, hanalyzable] at hneeds

/-- When the selection of a function succeeds, the function is opened in its owner. -/
theorem openIn_called (h : s.AtRest engine contracts) {event : NavigationEvent}
    (hevent : event.function? = some functionId)
    (howner : Contract.ownerOf? contracts functionId = some owner)
    (hok : (s.called engine (.dispatch event)).1 = .ok ()) :
    (s.called engine (.dispatch event)).2.OpenIn engine owner functionId ∧
      (owner.analyzable = false → (s.called engine (.dispatch event)).2.loaded = s.loaded) := by
  rw [called_function h.contracts hevent, howner] at hok ⊢
  dsimp only at hok ⊢
  cases hanalysed : s.analysed engine owner with
  | error fault => rw [hanalysed] at hok; cases hok
  | ok t =>
    -- The analysis is there before the function is selected, and the source changes neither.
    have hselection := opened_selection engine t (some owner) functionId
    have hloaded := opened_loaded engine t (some owner) functionId
    dsimp only
    refine ⟨⟨by rw [hselection]; rfl, by rw [hselection]; rfl, fun hanalyzable => ?_⟩, ?_⟩
    · rw [hloaded]
      exact h.provenance.loaded_of_analysed hanalyzable hanalysed
    · rw [hloaded]
      exact fun hanalyzable => loaded_of_not_analyzable hanalyzable hanalysed

end Session

namespace Workbench

variable {archive : Archive} {b b' : Workbench} {contracts : List Contract}

/-! ### Selecting a path and a step -/

/-- An event that selects neither a contract nor a function leaves the place. -/
theorem samePlace_dispatch (h : b.engine.Recalls archive) (hcontracts : b.session.contracts = some contracts)
    {event : NavigationEvent} (hevent : event.selects = false) :
    b.session.SamePlace (b.dispatch event).2.session ∧
      (b.dispatch event).2.engine.Recalls archive := by
  obtain ⟨e, he, hcall⟩ := call_eq_called h (.dispatch event)
  rw [Session.called_steer hcontracts hevent] at hcall
  rw [dispatch, hcall]
  exact ⟨b.session.samePlace_navigate hevent, he⟩

/-- So does an optional event that selects nothing, if it succeeds; and the engine keeps what its archive
    answers. -/
theorem samePlace_dispatchSome (h : b.engine.Recalls archive)
    (hcontracts : b.session.contracts = some contracts) {event : Option NavigationEvent}
    (hevent : ∀ e ∈ event, e.selects = false) (hok : b.dispatchSome event = .ok b') :
    b.session.SamePlace b'.session ∧ b'.engine.Recalls archive := by
  cases event with
  | none =>
    cases hok
    exact ⟨.refl _, h⟩
  | some event =>
    have hdispatch := samePlace_dispatch h hcontracts (hevent event rfl)
    rw [dispatchSome] at hok
    split at hok
    · cases hok
    · rename_i b'' heq
      cases hok
      rw [heq] at hdispatch
      exact hdispatch

/-- So does opening a path, and a step of it. -/
theorem samePlace_openPath (h : b.engine.Recalls archive)
    (hcontracts : b.session.contracts = some contracts) {k : Int} {step : Option Int}
    (hok : b.openPath k step = .ok b') : b.session.SamePlace b'.session := by
  simp only [openPath, bind, Except.bind] at hok
  split at hok
  · cases hok
  · split at hok
    · cases hok
    · split at hok
      · cases hok
      · rename_i b₁ hpath
        obtain ⟨hplace, he⟩ := samePlace_dispatchSome h hcontracts (by rintro _ ⟨⟩; rfl) hpath
        obtain ⟨hplace', -⟩ := samePlace_dispatchSome he (hplace.contracts.trans hcontracts)
          (by simp [NavigationEvent.selects]) hok
        exact hplace.trans hplace'

/-! ### Opening a function -/

variable {config : Config} {spec : String} {c : Contract} {f : FunctionInfo}

/-- Opening a function that a specification resolves to is a selection of the function, at a workbench at which
    the contracts were loaded and nothing else was done. -/
theorem openFunction_eq_ok (hfind : (loaded archive config).session.findFunction spec = .ok (c, f))
    (hopen : openFunction (Engine.fresh archive) config spec = .ok b) :
    ((loaded archive config).dispatch (.selectFunction f.id none)).1 = .ok () ∧
      b = ((loaded archive config).dispatch (.selectFunction f.id none)).2.settle := by
  simp only [openFunction, load_fresh, hfind] at hopen
  split at hopen
  · cases hopen
  · rename_i b₁ hdispatch
    cases hopen
    rw [hdispatch]
    exact ⟨rfl, rfl⟩

/-- A function is opened in its owner, and what was opened is at rest. -/
theorem openIn_openFunction (hfind : (loaded archive config).session.findFunction spec = .ok (c, f))
    (hopen : openFunction (Engine.fresh archive) config spec = .ok b) :
    b.AtRest archive ∧
      ∃ owner, Contract.ownerOf? archive.contracts f.id = some owner ∧
        b.session.OpenIn archive.oracle owner f.id ∧
        (owner.analyzable = false → b.session.loaded = none) := by
  obtain ⟨hok, rfl⟩ := openFunction_eq_ok hfind hopen
  obtain ⟨-, hrest, -⟩ := atRest_load archive config
  obtain ⟨-, hload, -⟩ := (idle_fresh archive config).load
  have hcontracts : (loaded archive config).session.contracts = some archive.contracts :=
    hrest.session.contracts
  have hloaded : (loaded archive config).session.loaded = none := by
    rw [loaded, hload]
    rfl
  obtain ⟨owner, howner⟩ := Session.ownerOf?_isSome_of_findFunction hcontracts hfind
  obtain ⟨houtcome, hsession, hvisited⟩ :=
    hrest.visit (.selectFunction f.id none)
  have hevent : (NavigationEvent.selectFunction f.id none).function? = some f.id := rfl
  obtain ⟨hopened, hunread⟩ := Session.openIn_called hrest.session hevent howner
    (houtcome.symm.trans hok)
  -- The fetches that settle after the call do not move what is open.
  have hplace := Session.samePlace_settled archive.oracle
    ((loaded archive config).session.called archive.oracle (.dispatch (.selectFunction f.id none))).2
  refine ⟨hvisited, owner, howner, ?_⟩
  rw [loaded, hsession]
  refine ⟨hopened.congr hplace, fun hanalyzable => ?_⟩
  exact (hplace.loaded.trans (hunread hanalyzable)).trans hloaded

/-- **A function is opened in the first contract that lists it.** Whatever the specification, the path and the
    step, if a workbench is opened then the function that the specification resolves to is selected in its
    owner, and the analysis of the owner is in use, if it can be analysed. -/
theorem openIn_owner {path step : Option Int}
    (hfind : (loaded archive config).session.findFunction spec = .ok (c, f))
    (hopen : openAt (Engine.fresh archive) config spec path step = .ok b) :
    ∃ owner, Contract.ownerOf? archive.contracts f.id = some owner ∧
      b.session.OpenIn archive.oracle owner f.id ∧
      (owner.analyzable = false → b.session.loaded = none) := by
  -- A path and a step are selected afterwards, if they are given; neither moves the selection elsewhere.
  simp only [openAt, bind, Except.bind] at hopen
  split at hopen
  · cases hopen
  · rename_i b₀ hb₀
    obtain ⟨hrest, owner, howner, hopened, hunread⟩ := openIn_openFunction hfind hb₀
    refine ⟨owner, howner, ?_⟩
    have hplace : b₀.session.SamePlace b.session := by
      cases path with
      | none =>
        cases hopen
        exact .refl _
      | some k => exact samePlace_openPath hrest.engine hrest.session.contracts hopen
    exact ⟨hopened.congr hplace, fun hanalyzable => hplace.loaded.trans (hunread hanalyzable)⟩

/-- **When the resolved function is the one that is opened.** Take a specification that resolves to a function
    and a contract, and a workbench that is opened for it.  The function is selected; and it is opened in the
    contract if and only if the first contract that lists it stands for this one. -/
theorem openIn_resolved_iff (archive : Archive) (config : Config) {spec : String}
    {path step : Option Int} {c : Contract} {f : FunctionInfo} {b : Workbench}
    (hfind : (loaded archive config).session.findFunction spec = .ok (c, f))
    (hopen : openAt (Engine.fresh archive) config spec path step = .ok b) :
    b.session.selection.functionId = some f.id ∧
      (b.session.OpenIn archive.oracle c f.id ↔
        ∃ owner, Contract.ownerOf? archive.contracts f.id = some owner ∧ owner.StandsFor c) := by
  obtain ⟨owner, howner, hopened, hunread⟩ := openIn_owner hfind hopen
  refine ⟨hopened.function, ?_⟩
  rw [hopened.iff_standsFor hunread, howner]
  simp

/-- A function that one contract inherits from another one. -/
def pay : FunctionInfo where
  id := 10
  name := "pay"

/-- The contract that inherits the function. -/
def derived : Contract where
  id := 2
  name := "Derived"
  functions := [pay]

/-- An archive of two contracts that list the same function. -/
def baseAndDerived : Archive where
  contracts := [{ id := 1, name := "Base", functions := [pay] }, derived]
  analyses := [("Base", .obj []), ("Derived", .obj [])]
  sources := [(10, .obj [("source", .str "function pay")])]

/-- The function can be opened. -/
theorem exists_openAt_derivedPay :
    ∃ b, openAt (Engine.fresh baseAndDerived) {} "Derived.pay" none none = .ok b := by
  have hok : (openAt (Engine.fresh baseAndDerived) {} "Derived.pay" none none).isOk = true := by
    decide +kernel
  exact Except.isOk_iff_exists_eq_ok.mp hok

/-- What was asked for is the function of the second contract. -/
theorem findFunction_derivedPay :
    (loaded baseAndDerived {}).session.findFunction "Derived.pay" = .ok (derived, pay) := by
  refine Except.toOption_eq_some.mp ?_
  decide +kernel

/-- The function is selected, and where it is open depends on the first contract that lists it. -/
theorem openIn_resolved_iff_of_derivedPay :
    (loaded baseAndDerived {}).session.findFunction "Derived.pay" = .ok (derived, pay) ∧
      ∃ b, openAt (Engine.fresh baseAndDerived) {} "Derived.pay" none none = .ok b ∧
        b.session.selection.functionId = some 10 ∧
        (b.session.OpenIn baseAndDerived.oracle derived 10 ↔
          ∃ owner, Contract.ownerOf? baseAndDerived.contracts 10 = some owner ∧
            owner.StandsFor derived) := by
  obtain ⟨b, hopen⟩ := exists_openAt_derivedPay
  exact ⟨findFunction_derivedPay, b, hopen,
    openIn_resolved_iff baseAndDerived {} findFunction_derivedPay hopen⟩

/-- **The function that was resolved need not be the one that is opened**, even if names and ids tell contracts
    apart: who asks for an inherited function gets that of the contract it is inherited from. -/
theorem not_always_openIn_resolved :
    ¬ ∀ (archive : Archive) (config : Config) (spec : String) (path step : Option Int) (c : Contract)
      (f : FunctionInfo) (b : Workbench),
      (archive.contracts.map Contract.name).Nodup →
      (archive.contracts.map Contract.id).Nodup →
      (loaded archive config).session.findFunction spec = .ok (c, f) →
      openAt (Engine.fresh archive) config spec path step = .ok b →
      b.session.OpenIn archive.oracle c f.id := by
  intro h
  obtain ⟨b, hopen⟩ := exists_openAt_derivedPay
  -- Both contracts list function 10, and the first of them is opened for `Derived.pay`.
  have hderived := h baseAndDerived {} "Derived.pay" none none _ _ b (by decide +kernel)
    (by decide +kernel) findFunction_derivedPay hopen
  obtain ⟨owner, howner, hopened, -⟩ := openIn_owner findFunction_derivedPay hopen
  have hid : (Contract.ownerOf? baseAndDerived.contracts pay.id).map Contract.id = some 1 := by
    decide +kernel
  rw [howner, Option.map_some, ← hopened.contract, hderived.contract] at hid
  exact absurd hid (by decide)

end Workbench

end RangeAudit
