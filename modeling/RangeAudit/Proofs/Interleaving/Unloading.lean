import Mathlib.Data.List.Induction
import RangeAudit.Proofs.Interleaving.Grounded
import RangeAudit.Proofs.Interleaving.Provenance

namespace RangeAudit

/-!
# What becomes of an unloaded session

Unloading cancels the background tasks, and not the calls that wait for the engine: these go on when
their answers come.  A source that comes is not wanted any more, but an analysis is used, and the function
that waited for it is selected.

* `Session.Bare`, `Session.Blank` — nothing is shown, and nothing is loaded either;
* `World.bringsAnalysis`, `World.bringsOwner` — the answers for which it is not asked whether they are
  still wanted;
* `World.UnloadedStep` — all ways in which a move of an unloaded session can go;
* `World.blank_iff_not_revived` — until contracts are loaded again, the session is blank if and only if no
  analysis has come since it was last unloaded, and bare if and only if no owner's has.

`World.not_always_blank` is a run in which the analysis of a function's owner comes after the session was
unloaded.
-/

/-- Nothing is selected, nothing is displayed, and no data of functions are held. -/
structure Session.Bare (s : Session) : Prop where
  selection : s.selection = {}
  display : s.display = {}
  details : s.details = []
  flowGraphs : s.flowGraphs = []

/-- As it is before anything is loaded: no contracts, no analysis, and nothing to be shown. -/
structure Session.Blank (s : Session) : Prop extends s.Bare where
  contracts : s.contracts = none
  loaded : s.loaded = none

/-- Is the session unloaded? -/
def Move.isUnload : Move → Bool
  | .unload => true
  | _ => false

namespace World

/-- Does the move bring contracts to a call that loads them? -/
def bringsContracts (w : World) : Move → Bool
  | .reply k oracle =>
    match w.calls[k]? with
    | some .contracts => (oracle .contracts).isOk
    | _ => false
  | _ => false

/-- Does the move bring an analysis to a call that waits for it? -/
def bringsAnalysis (w : World) : Move → Bool
  | .reply k oracle =>
    match w.calls[k]? with
    | some (.contractAnalysis c _) | some (.ownerAnalysis c _) => (oracle (.analysis c.name)).isOk
    | _ => false
  | _ => false

/-- Does the move bring the analysis of its owner to a call that selects a function? -/
def bringsOwner (w : World) : Move → Bool
  | .reply k oracle =>
    match w.calls[k]? with
    | some (.ownerAnalysis owner _) => (oracle (.analysis owner.name)).isOk
    | _ => false
  | _ => false

/-- A move that loads no contracts, of a session whose selection is changed only through its calls. -/
def LeavesUnloaded (w : World) (m : Move) : Prop :=
  w.bringsContracts m = false ∧ m.isDirect = false

/-- An analysis came, and the session was not unloaded afterwards. -/
def Revived (w : World) (moves : List Move) : Prop :=
  w.Lasts (fun w m => w.bringsAnalysis m = true) (fun _ m => m.isUnload = false) moves

/-- The analysis of the owner of a function came, and the session was not unloaded afterwards. -/
def Reselected (w : World) (moves : List Move) : Prop :=
  w.Lasts (fun w m => w.bringsOwner m = true) (fun _ m => m.isUnload = false) moves

end World

/-! ### Bare sessions -/

namespace Session

variable {s : Session}

/-- An unloaded session is blank. -/
theorem blank_unload (s : Session) : s.unload.Blank where
  selection := rfl
  display := display_of_nothing
  details := rfl
  flowGraphs := rfl
  contracts := rfl
  loaded := rfl

/-- Nothing is wanted while nothing is selected. -/
theorem not_wants_of_selection_eq (h : s.selection = {}) (functionId : Option Int) (nodeId : Int) :
    s.wants functionId nodeId = false := by
  cases functionId <;> simp [wants, h]

/-- Making requests shows nothing. -/
theorem Bare.perform (h : s.Bare) (requests : List Request) : (s.perform requests).2.Bare := by
  obtain ⟨_, _, hperform⟩ := perform_snd s requests
  rw [hperform]
  exact ⟨h.selection, h.display, h.details, h.flowGraphs⟩

/-- An analysis is no data of a function. -/
theorem Bare.useAnalysis (h : s.Bare) (contract : String) (a : Analysis) :
    (s.useAnalysis contract a).Bare :=
  ⟨h.selection, h.display, rfl, rfl⟩

/-- Reading a view only keeps it. -/
theorem Bare.read (h : s.Bare) (view : KeptView) : (s.read view).Bare := by
  obtain ⟨_, hread⟩ := s.read_eq view
  rw [hread]
  exact ⟨h.selection, h.display, h.details, h.flowGraphs⟩

/-- Reading a view loads nothing. -/
theorem Blank.read (h : s.Blank) (view : KeptView) : (s.read view).Blank :=
  ⟨h.toBare.read view, (s.read_contracts view).trans h.contracts, (s.read_loaded view).trans h.loaded⟩

/-- A fetch that is still out brings nothing that is wanted. -/
theorem Bare.settle (h : s.Bare) (f : Fetch) (answer : Except Fault f.query.Answer) :
    (s.settle f answer).Bare := by
  have hclosed : (s.close f).Bare := ⟨h.selection, h.display, h.details, h.flowGraphs⟩
  unfold Session.settle
  split
  · obtain ⟨ticket, aim, functionId⟩ := f
    cases answer with
    | error fault => cases aim <;> exact hclosed
    | ok v =>
      cases aim <;>
        simp only [accept, not_wants_of_selection_eq hclosed.selection, Bool.false_eq_true,
          if_false] <;>
        exact hclosed
  · exact h

end Session

namespace World

variable {w : World} {m : Move}

/-- The analysis of an owner is an analysis. -/
theorem bringsAnalysis_of_bringsOwner (h : w.bringsOwner m = true) : w.bringsAnalysis m = true := by
  cases m with
  | reply k oracle =>
    simp only [bringsOwner] at h
    simp only [bringsAnalysis]
    split at h
    · rename_i hk
      rw [hk]
      exact h
    · cases h
  | _ => cases h

/-- What the analysis of an owner brought about, an analysis brought about. -/
theorem Reselected.revived {moves : List Move} (h : w.Reselected moves) : w.Revived moves := by
  obtain ⟨before, m, after, hmoves, hbrings, hafter⟩ := h
  exact ⟨before, m, after, hmoves, bringsAnalysis_of_bringsOwner hbrings, hafter⟩

/-! ### Moves of an unloaded session -/

/-- How a move of an unloaded session can go. -/
inductive UnloadedStep (w : World) (m : Move) (w' : World) : Prop
  | unloads (hm : m.isUnload = true) (hbrings : w.bringsAnalysis m = false)
      (hsession : w'.session = w.session.unload)
  /-- Nothing comes that is used. -/
  | stays (hm : m.isUnload = false) (hbrings : w.bringsAnalysis m = false)
      (hcontracts : w'.session.contracts = w.session.contracts)
      (hloaded : w'.session.loaded = w.session.loaded)
      (hselection : w'.session.selection = w.session.selection)
      (hbare : w.session.Bare → w'.session.Bare)
  /-- The analysis of a contract comes, and is used. -/
  | revives (hm : m.isUnload = false) (hbrings : w.bringsAnalysis m = true)
      (howner : w.bringsOwner m = false) (hcontracts : w'.session.contracts = w.session.contracts)
      (hloaded : w'.session.loaded.isSome = true)
      (hselection : w'.session.selection = w.session.selection)
      (hbare : w.session.Bare → w'.session.Bare)
  /-- The analysis of an owner comes and is used, and the function is selected. -/
  | selects (hm : m.isUnload = false) (howner : w.bringsOwner m = true)
      (hcontracts : w'.session.contracts = w.session.contracts)
      (hloaded : w'.session.loaded.isSome = true)
      (hfunction : w'.session.selection.functionId.isSome = true)

/-- A move that leaves the session alone brings nothing that is used. -/
theorem UnloadedStep.of_session_eq {w' : World} (hm : m.isUnload = false)
    (hbrings : w.bringsAnalysis m = false) (hsession : w'.session = w.session) : UnloadedStep w m w' := by
  refine .stays hm hbrings ?_ ?_ ?_ fun hbare => ?_ <;> rw [hsession]
  exact hbare

/-- **Step lemma.** The answer to a call brings at most an analysis, and selects a function only with that of
    its owner. -/
theorem unloadedStep_reply {k : Nat} {oracle : Oracle}
    (hm : w.bringsContracts (.reply k oracle) = false) :
    UnloadedStep w (.reply k oracle) (w.step (.reply k oracle)) := by
  cases hk : w.calls[k]? with
  | none =>
    rw [step_reply_none hk]
    exact .of_session_eq rfl (by simp [bringsAnalysis, hk]) rfl
  | some call =>
    obtain ⟨_, _, -, hstep⟩ := step_reply_some hk oracle
    cases hanswer : oracle call.query with
    | error fault =>
      -- A fault ends the call, whatever it waited for.
      rw [hanswer] at hstep
      have hsession : (w.step (.reply k oracle)).session = w.session := by
        rw [hstep]
        cases call <;> rfl
      refine .of_session_eq rfl ?_ hsession
      cases call <;> simp [bringsAnalysis, hk, hanswer, Except.isOk, Except.toBool]
    | ok v =>
      rw [hanswer] at hstep
      have hsession : (w.step (.reply k oracle)).session = (w.session.resume call (.ok v)).2 := by
        rw [hstep]
      -- An analysis is used although nothing is selected; a source is not wanted then.
      cases call with
      | contracts =>
        simp only [bringsContracts, hk, hanswer] at hm
        cases hm
      | contractAnalysis c requests =>
        have hbrings : w.bringsAnalysis (.reply k oracle) = true := by
          simp only [bringsAnalysis, hk, hanswer]
          rfl
        refine .revives rfl hbrings (by simp [bringsOwner, hk]) ?_ ?_ ?_ fun hbare => ?_ <;>
          rw [hsession]
        · exact Session.perform_contracts _ requests
        · rw [Session.resume, Session.perform_loaded]
          rfl
        · exact Session.perform_selection _ requests
        · exact (hbare.useAnalysis c.name v).perform requests
      | ownerAnalysis owner functionId =>
        have howner : w.bringsOwner (.reply k oracle) = true := by
          simp only [bringsOwner, hk, hanswer]
          rfl
        refine .selects rfl howner ?_ ?_ ?_ <;> rw [hsession]
        · exact Session.openFunction_contracts _ (some owner) functionId
        · rw [Session.resume, Session.openFunction_loaded]
          rfl
        · rw [Session.resume, Session.openFunction_functionId]
          rfl
      | source nodeId functionId requests =>
        refine .stays rfl (by simp [bringsAnalysis, hk]) ?_ ?_ ?_ fun hbare => ?_ <;>
          rw [hsession, Session.resume]
        · rw [Session.perform_contracts]
          split <;> rfl
        · rw [Session.perform_loaded]
          split <;> rfl
        · rw [Session.perform_selection]
          split <;> rfl
        · rw [Session.not_wants_of_selection_eq hbare.selection]
          exact hbare.perform requests

/-- **Inversion.** A move of an unloaded session goes in one of four ways. -/
theorem unloadedStep (h : w.session.contracts = none) (hm : w.LeavesUnloaded m) :
    UnloadedStep w m (w.step m) := by
  cases m with
  | issue command =>
    -- Loading waits for the contracts, and nothing can be selected without contracts.
    have hsession : (w.step (.issue command)).session = w.session := by
      cases command with
      | load => rfl
      | dispatch event => simp only [step, Session.begin, h]
    exact .of_session_eq rfl rfl hsession
  | unload => exact .unloads rfl rfl rfl
  | navigate event => cases hm.2
  | reply k oracle => exact unloadedStep_reply hm.1
  | deliver fetch oracle =>
    exact .stays rfl rfl (by simp [step]) (by simp [step]) (by simp [step])
      fun hbare => hbare.settle fetch _
  | read view =>
    exact .stays rfl rfl (by simp [step]) (by simp [step]) (by simp [step])
      fun hbare => hbare.read view

/-! ### Runs -/

/-- What is known of an unloaded session when it is known which analyses have come. -/
structure UnloadedInvariant (revived reselected : Prop) (s : Session) : Prop where
  contracts : s.contracts = none
  loaded : s.loaded.isSome = true ↔ revived
  function : s.selection.functionId.isSome = true ↔ reselected
  bare : ¬ reselected → s.Bare

/-- **Step lemma.** What is known of a session is known after the next move, with the move taken into
    account. -/
theorem UnloadedInvariant.step {revived reselected : Prop}
    (h : UnloadedInvariant revived reselected w.session) (hstep : UnloadedStep w m (w.step m)) :
    UnloadedInvariant (w.bringsAnalysis m = true ∨ (revived ∧ m.isUnload = false))
      (w.bringsOwner m = true ∨ (reselected ∧ m.isUnload = false)) (w.step m).session := by
  -- Where no analysis comes, no owner's does, so nothing is selected either.
  have hnotOwner : w.bringsAnalysis m = false → w.bringsOwner m = false := by
    intro hbrings
    rw [Bool.eq_false_iff] at hbrings ⊢
    exact fun howner => hbrings (bringsAnalysis_of_bringsOwner howner)
  cases hstep with
  | unloads hm hbrings hsession =>
    have hblank := w.session.blank_unload
    rw [hbrings, hnotOwner hbrings, hm, hsession]
    exact ⟨rfl, by simp [hblank.loaded], by simp [hblank.selection], fun _ => hblank.toBare⟩
  | stays hm hbrings hcontracts hloaded hselection hbare =>
    rw [hbrings, hnotOwner hbrings, hm]
    refine ⟨hcontracts.trans h.contracts, ?_, ?_, ?_⟩
    · simpa [hloaded] using h.loaded
    · simpa [hselection] using h.function
    · exact fun hnot => hbare (h.bare fun hreselected => hnot (.inr ⟨hreselected, rfl⟩))
  | revives hm hbrings howner hcontracts hloaded hselection hbare =>
    rw [hbrings, howner, hm]
    refine ⟨hcontracts.trans h.contracts, ?_, ?_, ?_⟩
    · simp [hloaded]
    · simpa [hselection] using h.function
    · exact fun hnot => hbare (h.bare fun hreselected => hnot (.inr ⟨hreselected, rfl⟩))
  | selects hm howner hcontracts hloaded hfunction =>
    rw [bringsAnalysis_of_bringsOwner howner, howner]
    exact ⟨hcontracts.trans h.contracts, by simp [hloaded], by simp [hfunction],
      fun hnot => absurd (.inl rfl) hnot⟩

/-- **Run lemma.** After every run in which no contracts are loaded, it can be told from the analyses that
    have come what the session holds. -/
theorem unloadedInvariant_run (h : w.session.Blank) {moves : List Move}
    (hmoves : w.Along LeavesUnloaded moves) :
    UnloadedInvariant (w.Revived moves) (w.Reselected moves) (w.run moves).session := by
  -- The induction is on the end of the run: the last unloading is what counts.
  induction moves using List.reverseRecOn with
  | nil =>
    refine ⟨h.contracts, ?_, ?_, fun _ => h.toBare⟩
    · simp [Revived, not_lasts_nil, h.loaded]
    · simp [Reselected, not_lasts_nil, h.selection]
  | append_singleton moves m ih =>
    rw [along_append] at hmoves
    obtain ⟨hmoves, hm, -⟩ := hmoves
    have hinv := ih hmoves
    rw [Revived, Reselected, lasts_concat, lasts_concat, run_append]
    exact hinv.step (unloadedStep hinv.contracts hm)

/-- **Unloading, as far as it goes.** Take any session, with any calls and fetches in flight, and unload it;
    engines may answer what they like, or fail.  Until contracts are loaded again there are none, and the
    session is blank if and only if no analysis has come since it was last unloaded to a call that waited
    for it.  What is shown is blank if and only if no such call was to select a function. -/
theorem blank_iff_not_revived (w : World) {moves : List Move}
    (hmoves : (w.step .unload).Along LeavesUnloaded moves) :
    ((w.step .unload).run moves).session.contracts = none ∧
      (((w.step .unload).run moves).session.Blank ↔ ¬ (w.step .unload).Revived moves) ∧
      (((w.step .unload).run moves).session.Bare ↔ ¬ (w.step .unload).Reselected moves) := by
  -- Each part of the invariant is an equivalence already, so both directions are read off it.
  have hinv := unloadedInvariant_run w.session.blank_unload hmoves
  have hbare : ((w.step .unload).run moves).session.Bare ↔ ¬ (w.step .unload).Reselected moves := by
    refine ⟨fun hbare hreselected => ?_, hinv.bare⟩
    have hfunction := hinv.function.mpr hreselected
    rw [hbare.selection] at hfunction
    cases hfunction
  refine ⟨hinv.contracts, ⟨fun hblank hrevived => ?_, fun hnot => ?_⟩, hbare⟩
  · have hloaded := hinv.loaded.mpr hrevived
    rw [hblank.loaded] at hloaded
    cases hloaded
  · have hloaded : ¬ ((w.step .unload).run moves).session.loaded.isSome = true := mt hinv.loaded.mp hnot
    exact ⟨hinv.bare fun hreselected => hnot hreselected.revived, hinv.contracts,
      Option.not_isSome_iff_eq_none.mp hloaded⟩

/-- The session is unloaded while a function waits for the analysis of its owner. -/
def unloadedEarly : World :=
  (loaded {} Archive.ofVaultAndToken.contracts).run [.issue (.dispatch (.selectFunction 10 none))]

/-- Then the analysis comes, and the source of the function. -/
def lateOwner : List Move :=
  let engine := Archive.ofVaultAndToken.oracle
  [.reply 0 engine, .reply 0 engine]

/-- The analysis of a function's owner comes after the unloading, and the session is not blank any more. -/
theorem blank_iff_not_revived_of_lateOwner :
    (unloadedEarly.step .unload).Along LeavesUnloaded lateOwner ∧
      ((unloadedEarly.step .unload).run lateOwner).session.contracts = none ∧
      (((unloadedEarly.step .unload).run lateOwner).session.Blank ↔
        ¬ (unloadedEarly.step .unload).Revived lateOwner) ∧
      (((unloadedEarly.step .unload).run lateOwner).session.Bare ↔
        ¬ (unloadedEarly.step .unload).Reselected lateOwner) := by
  have hmoves : (unloadedEarly.step .unload).Along LeavesUnloaded lateOwner := by
    refine ⟨?_, ?_, trivial⟩ <;> exact ⟨by decide +kernel, rfl⟩
  exact ⟨hmoves, blank_iff_not_revived unloadedEarly hmoves⟩

/-- **An unloaded session need not stay blank**, even if nothing is told to it after it was unloaded, and
    the engine is deterministic and never fails. -/
theorem not_always_blank :
    ¬ ∀ (engine : Oracle) (contracts : List Contract) (config : Config) (before after : List Move),
      (contracts.map Contract.name).Nodup →
      (contracts.flatMap fun c => c.functions.map FunctionInfo.id).Nodup →
      (loaded config contracts).Along (Steady engine) before →
      (((loaded config contracts).run before).step .unload).Along (Steady engine) after →
      ((((loaded config contracts).run before).step .unload).run after).session.Blank := by
  intro h
  have hbefore : (loaded {} Archive.ofVaultAndToken.contracts).Along
      (Steady Archive.ofVaultAndToken.oracle) [.issue (.dispatch (.selectFunction 10 none))] :=
    ⟨⟨⟨by simp [Move.HonestTo, Move.Tells], by decide +kernel, rfl⟩, rfl⟩, trivial⟩
  have hafter : (unloadedEarly.step .unload).Along (Steady Archive.ofVaultAndToken.oracle) lateOwner := by
    refine ⟨?_, ?_, trivial⟩ <;>
      exact ⟨⟨by simp [Move.HonestTo, Move.Tells], by decide +kernel, rfl⟩, rfl⟩
  -- The call of the owner's analysis outlives the unload, and its answer selects a function.
  have hblank := h _ _ _ _ _ (by decide +kernel) (by decide +kernel) hbefore hafter
  have hselection : ((unloadedEarly.step .unload).run lateOwner).session.selection = {} := hblank.selection
  exact absurd hselection (by decide +kernel)

end World

end RangeAudit
