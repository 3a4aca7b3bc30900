import Mathlib.Data.List.Induction
import RangeAudit.Proofs.Interleaving.Grounded
import RangeAudit.Proofs.Interleaving.Provenance

namespace RangeAudit

/-!
# When the analysis in use is that of the selection

A selected contract is selected before its analysis is there, and an analysis is used when it comes,
whatever is selected by then.  So the analysis of a contract that was left can come last, and stays.

* `Selection.contract?` — the contract that a selection is in;
* `Session.AnalysisFits` — the analysis in use is the engine's for that contract;
* `World.isStale` — the moves that bring the analysis of a contract that was left;
* `World.decides` — the moves after which it is settled whether the analysis in use fits;
* `World.LeftStale` — the last move that decided was stale;
* `World.analysisFits_iff_not_leftStale` — when no call waits, the analysis in use fits if and only if the
  last move that decided was not stale.

Of the answers to other requests only those are used that the session still wants (`Session.wants`).  The
answer to the request of an analysis is used without a look at the selection, and
`World.not_always_analysisFits` gives a run in which this shows.
-/

/-- The contract that a selection is in: the owner of the selected function, else the selected contract. -/
def Selection.contract? (contracts : List Contract) (s : Selection) : Option Contract :=
  match s.functionId with
  | some functionId => Contract.ownerOf? contracts functionId
  | none => s.contractId.bind (Contract.withId? contracts)

namespace Session

/-- Is the analysis of a contract in use? -/
def Uses (s : Session) (c : Contract) : Prop :=
  s.loaded.map LoadedAnalysis.contract = some c.name

/-- The analysis in use, if the selection is in a contract, is that of the contract. -/
def UsesSelected (contracts : List Contract) (s : Session) : Prop :=
  ∀ c, s.selection.contract? contracts = some c → s.Uses c

/-- The analysis in use, if the selection is in a contract, is the engine's analysis of the contract. -/
def AnalysisFits (engine : Oracle) (contracts : List Contract) (s : Session) : Prop :=
  ∀ c, s.selection.contract? contracts = some c →
    ∃ l, s.loaded = some l ∧ l.contract = c.name ∧ engine (.analysis c.name) = .ok l.analysis

/-- Is something selected whose analysis is there, so that nothing is waited for before it is used? -/
def selectsAtOnce (s : Session) (contracts : List Contract) : NavigationEvent → Bool
  | .selectContract id => (Contract.withId? contracts id).any fun c => !s.needsAnalysis c
  | .selectFunction id _ | .navigateToFunction id _ =>
    (Contract.ownerOf? contracts id).all fun c => !s.needsAnalysis c
  | _ => false

end Session

namespace World

/-- Does the move bring the analysis of a contract that the selection is not in any more? -/
def isStale (contracts : List Contract) (w : World) : Move → Bool
  | .reply k _ =>
    match w.calls[k]? with
    | some (.contractAnalysis c _) =>
      (w.session.selection.contract? contracts).any fun d => d.name != c.name
    | _ => false
  | _ => false

/-- Does the move select something whose analysis is there, or bring an analysis? -/
def decides (contracts : List Contract) (w : World) : Move → Bool
  | .issue (.dispatch event) => w.session.selectsAtOnce contracts event
  | .reply k _ =>
    match w.calls[k]? with
    | some (.contractAnalysis _ _) | some (.ownerAnalysis _ _) => true
    | _ => false
  | _ => false

/-- The last move of the run that decided was stale. -/
def LeftStale (contracts : List Contract) (w : World) (moves : List Move) : Prop :=
  ∃ before m after, moves = before ++ m :: after ∧
    (w.run before).isStale contracts m = true ∧
    ((w.run before).step m).Along (fun w m => w.decides contracts m = false) after

end World

/-! ### The analysis in use -/

namespace Session

variable {s t : Session} {contracts : List Contract}

/-- For contracts that can be analysed, what need not be fetched is in use. -/
theorem uses_of_not_needs {c : Contract} (hanalyzable : c.analyzable = true)
    (h : s.needsAnalysis c = false) : s.Uses c := by
  unfold Uses
  cases hloaded : s.loaded with
  | none => simp [needsAnalysis, hloaded, hanalyzable] at h
  | some l =>
    simp only [needsAnalysis, hloaded, hanalyzable, Option.all_some, Bool.and_true,
      bne_eq_false_iff_eq] at h
    rw [Option.map_some, h]

/-- What must be fetched is not in use. -/
theorem not_uses_of_needs {c : Contract} (h : s.needsAnalysis c = true) : ¬ s.Uses c := by
  unfold Uses
  cases hloaded : s.loaded with
  | none => simp
  | some l =>
    simp only [needsAnalysis, hloaded, Option.all_some, Bool.and_eq_true, bne_iff_ne] at h
    simpa using h.1

/-- A held analysis is the engine's, so it fits as soon as it is that of the right contract. -/
theorem Provenance.analysisFits_iff {engine : Oracle} (h : s.Provenance engine) :
    s.AnalysisFits engine contracts ↔ s.UsesSelected contracts := by
  refine ⟨fun hfits c hc => ?_, fun huses c hc => ?_⟩
  · obtain ⟨l, hl, hname, -⟩ := hfits c hc
    rw [Uses, hl, Option.map_some, hname]
  · obtain ⟨l, hl, hname⟩ := Option.map_eq_some_iff.mp (huses c hc)
    refine ⟨l, hl, hname, ?_⟩
    rw [← hname]
    exact h.loaded l hl

/-- Events that select nothing leave the contract that the selection is in. -/
theorem contract?_navigate {event : NavigationEvent} (h : event.selects = false) :
    (s.navigate event).1.selection.contract? contracts = s.selection.contract? contracts := by
  have hids := s.selection.apply_of_not_selects s.hasSummary h
  show (s.selection.apply s.hasSummary event).1.contract? contracts = _
  rw [Selection.contract?, Selection.contract?, hids.1, hids.2]

/-- A contract that was just selected is the one that the selection is in. -/
theorem contract?_selectContract (s : Session) (contracts : List Contract) (id : Int) :
    (s.navigate (.selectContract id)).1.selection.contract? contracts =
      Contract.withId? contracts id := rfl

/-- A function that was just opened is in the contract that lists it, whatever owner was found before. -/
theorem contract?_openFunction (s : Session) (owner : Option Contract) (functionId : Int) :
    (s.openFunction owner functionId).2.selection.contract? contracts =
      Contract.ownerOf? contracts functionId := by
  rw [Selection.contract?, openFunction_functionId]

/-- A function is selected at once if no analysis of its owner must be fetched. -/
theorem selectsAtOnce_of_function {event : NavigationEvent} {functionId : Int}
    (h : event.function? = some functionId) : s.selectsAtOnce contracts event =
      (Contract.ownerOf? contracts functionId).all fun c => !s.needsAnalysis c := by
  cases event with
  | selectFunction id contract => cases h; rfl
  | navigateToFunction id contract => cases h; rfl
  | _ => cases h

/-- An event that selects nothing does not decide which analysis fits. -/
theorem selectsAtOnce_of_not_selects {event : NavigationEvent} (h : event.selects = false) :
    s.selectsAtOnce contracts event = false := by
  cases event <;> first | rfl | cases h

end Session

namespace World

variable {engine : Oracle} {contracts : List Contract} {w : World} {m : Move}

/-! ### The last move that decided -/

/-- A stale move brings an analysis, so it decides. -/
theorem not_isStale_of_not_decides (h : w.decides contracts m = false) :
    w.isStale contracts m = false := by
  cases m with
  | reply k oracle =>
    simp only [decides] at h
    simp only [isStale]
    split
    · rename_i c requests hk
      simp [hk] at h
    · rfl
  | _ => rfl

/-- Where nothing has happened, no analysis has come too late. -/
theorem not_leftStale_nil (w : World) : ¬ w.LeftStale contracts [] :=
  not_lasts_nil (fun w m => w.isStale contracts m = true) (fun w m => w.decides contracts m = false) w

/-- A stale move came last if it comes now, or if it came last before and this move does not decide. -/
theorem leftStale_concat (w : World) (moves : List Move) (m : Move) :
    w.LeftStale contracts (moves ++ [m]) ↔
      (w.run moves).isStale contracts m = true ∨
        (w.LeftStale contracts moves ∧ (w.run moves).decides contracts m = false) :=
  lasts_concat (fun w m => w.isStale contracts m = true) (fun w m => w.decides contracts m = false) w
    moves m

/-! ### What a move does to the analysis in use -/

/-- How a move can go, as far as the analysis of the selected contract is concerned. -/
inductive AnalysisStep (contracts : List Contract) (w : World) (m : Move) : Prop
  /-- Nothing changes, and whatever waits for the analysis of a selected contract goes on waiting. -/
  | stays (hdecides : w.decides contracts m = false)
      (hcontract : (w.step m).session.selection.contract? contracts =
        w.session.selection.contract? contracts)
      (hloaded : (w.step m).session.loaded = w.session.loaded)
      (hcalls : ∀ c requests, .contractAnalysis c requests ∈ w.calls →
        .contractAnalysis c requests ∈ (w.step m).calls)
  /-- A contract is selected before its analysis is there. -/
  | selects (hdecides : w.decides contracts m = false) (c : Contract) (requests : List Request)
      (hcontract : (w.step m).session.selection.contract? contracts = some c)
      (hcall : .contractAnalysis c requests ∈ (w.step m).calls)
      (hunused : ¬ (w.step m).session.Uses c)
  /-- The analysis in use fits the selection now. -/
  | fits (hdecides : w.decides contracts m = true) (hstale : w.isStale contracts m = false)
      (huses : (w.step m).session.UsesSelected contracts)
  /-- An analysis comes for which it is too late. -/
  | stale (hstale : w.isStale contracts m = true)
      (hunused : ¬ (w.step m).session.UsesSelected contracts)

/-- **Step lemma.** The first turn of a call selects a contract whose analysis is there or waited for, or a
    function whose owner's analysis is there, or leaves the selection. -/
theorem analysisStep_dispatch (hanalyzable : ∀ c ∈ contracts, c.analyzable = true)
    (h : w.Grounded contracts) (event : NavigationEvent) :
    AnalysisStep contracts w (.issue (.dispatch event)) := by
  generalize hturn : w.session.begin (.dispatch event) = turn
  have hsession : (w.step (.issue (.dispatch event))).session = turn.2 := by rw [← hturn]; rfl
  have hcalls : (w.step (.issue (.dispatch event))).calls = w.calls ++ turn.1.pending := by
    rw [← hturn]; rfl
  have hkept : ∀ c requests, .contractAnalysis c requests ∈ w.calls →
      .contractAnalysis c requests ∈ (w.step (.issue (.dispatch event))).calls := by
    intro c requests hc
    rw [hcalls]
    exact List.mem_append_left _ hc
  cases Session.firstTurn_of_begin h.held hturn with
  -- Events that navigate only: neither the contract nor the analysis moves.
  | steer hevent =>
    refine .stays (Session.selectsAtOnce_of_not_selects hevent) ?_ ?_ hkept
    · rw [hsession, Session.contract?_navigate hevent]
    · rw [hsession]; rfl
  | unknownContract id hevent hfind =>
    subst hevent
    exact .stays (by simp [decides, Session.selectsAtOnce, hfind]) (by rw [hsession])
      (by rw [hsession]) hkept
  -- The contract is shown before its analysis is there, so the call that is sent is the one still to come.
  | contractFirst id c hevent hfind hneeds =>
    subst hevent
    refine .selects (by simp [decides, Session.selectsAtOnce, hfind, hneeds]) c [.source id none]
      ?_ ?_ ?_
    · rw [hsession, Session.contract?_selectContract, hfind]
    · rw [hcalls]
      exact List.mem_append_right _ (List.mem_singleton_self _)
    · rw [hsession]
      exact Session.not_uses_of_needs hneeds
  | contractNow id c hevent hfind hneeds =>
    subst hevent
    -- The analysis held is already that of `c`, since `c` needs no other.
    have hc : c ∈ contracts := List.mem_of_find?_eq_some hfind
    refine .fits (by simp [decides, Session.selectsAtOnce, hfind, hneeds]) rfl ?_
    intro d hd
    rw [hsession, Session.perform_selection, Session.contract?_selectContract, hfind] at hd
    cases hd
    rw [hsession, Session.Uses, Session.perform_loaded]
    exact Session.uses_of_not_needs (hanalyzable c hc) hneeds
  -- Nothing is shown until the owner's analysis is answered.
  | analysisFirst functionId owner hevent hfind hneeds =>
    refine .stays ?_ (by rw [hsession]) (by rw [hsession]) hkept
    simp [decides, Session.selectsAtOnce_of_function hevent, hfind, hneeds]
  | functionNow functionId owner hevent hfind hneeds =>
    refine .fits ?_ rfl ?_
    · simp only [decides, Session.selectsAtOnce_of_function hevent, hfind]
      cases owner with
      | none => rfl
      | some c => simp [hneeds c rfl]
    · intro d hd
      rw [hsession, Session.contract?_openFunction] at hd
      have hmem : d ∈ contracts := List.mem_of_find?_eq_some hd
      rw [hsession, Session.Uses, Session.openFunction_loaded]
      exact Session.uses_of_not_needs (hanalyzable d hmem) (hneeds d (hfind.symm.trans hd))

/-- **Step lemma.** The analysis of a function's owner comes together with the selection, that of a contract
    behind it. -/
theorem analysisStep_reply (h : w.Grounded contracts) {k : Nat} {oracle : Oracle}
    (hm : w.Driven engine (.reply k oracle)) : AnalysisStep contracts w (.reply k oracle) := by
  cases hm.replyStep with
  | unheard hk hsame =>
    exact .stays (by simp [decides, hk]) (by rw [hsame]) (by rw [hsame])
      (fun _ _ hc => by rw [hsame]; exact hc)
  | resumed call v hk hcall hsession hcalls hpending hothers =>
    have hsound : call.Sound contracts := h.calls call hcall
    cases call with
    | contracts => exact hsound.elim
    | contractAnalysis c requests =>
      have hselection : (w.step (.reply k oracle)).session.selection = w.session.selection := by
        rw [hsession]
        exact Session.perform_selection _ requests
      have huses : (w.step (.reply k oracle)).session.Uses c := by
        rw [hsession, Session.Uses]
        exact congrArg _ (Session.perform_loaded _ requests)
      -- The analysis is used in any case; all depends on where the selection is by now.
      by_cases hstale : w.isStale contracts (.reply k oracle) = true
      · refine .stale hstale ?_
        intro hall
        simp only [isStale, hk, Option.any_eq_true, bne_iff_ne] at hstale
        obtain ⟨d, hd, hname⟩ := hstale
        have hd' : (w.step (.reply k oracle)).session.Uses d := hall d (by rw [hselection]; exact hd)
        exact hname (Option.some.inj (hd'.symm.trans huses))
      · rw [Bool.not_eq_true] at hstale
        refine .fits (by simp [decides, hk]) hstale ?_
        intro d hd
        rw [hselection] at hd
        simp only [isStale, hk, hd, Option.any_some, bne_eq_false_iff_eq] at hstale
        rw [Session.Uses, hstale]
        exact huses
    | ownerAnalysis owner functionId =>
      -- The selection changes only now, together with the analysis.
      refine .fits (by simp [decides, hk]) (by simp [isStale, hk]) ?_
      intro d hd
      have hcontract : (w.step (.reply k oracle)).session.selection.contract? contracts =
          some owner := by
        rw [hsession]
        exact (Session.contract?_openFunction _ (some owner) functionId).trans hsound
      rw [hcontract] at hd
      cases hd
      rw [hsession, Session.Uses]
      exact congrArg _ (Session.openFunction_loaded _ (some owner) functionId)
    | source nodeId functionId requests =>
      refine .stays (by simp [decides, hk]) ?_ ?_ ?_
      · rw [hsession]
        simp only [Session.resume, Session.perform_selection]
        split <;> rfl
      · rw [hsession]
        simp only [Session.resume, Session.perform_loaded]
        split <;> rfl
      · intro c others hc
        rcases hothers _ hc with heq | hkept
        · cases heq
        · exact hkept

/-- **Inversion.** A move of a steady session goes in one of four ways. -/
theorem analysisStep (hanalyzable : ∀ c ∈ contracts, c.analyzable = true) (h : w.Grounded contracts)
    (hm : w.Steady engine m) : AnalysisStep contracts w m := by
  cases m with
  | issue command =>
    cases command with
    | load => cases hm.2
    | dispatch event => exact analysisStep_dispatch hanalyzable h event
  | unload => cases hm.2
  | navigate event => cases hm.1.2.2
  | reply k oracle => exact analysisStep_reply h hm.1
  | deliver fetch oracle => exact .stays rfl (by simp [step]) (by simp [step]) (fun _ _ hc => hc)
  | read view => exact .stays rfl (by simp [step]) (by simp [step]) (fun _ _ hc => hc)

/-! ### Runs -/

/-- The selected contract still waits for its analysis. -/
def AwaitsSelected (contracts : List Contract) (w : World) : Prop :=
  ∃ c requests, .contractAnalysis c requests ∈ w.calls ∧
    w.session.selection.contract? contracts = some c

/-- What is known when a stale move came last, and when none did. -/
structure AnalysisInvariant (contracts : List Contract) (late : Prop) (w : World) : Prop where
  stale : late → ¬ w.session.UsesSelected contracts
  fresh : ¬ late → w.session.UsesSelected contracts ∨ w.AwaitsSelected contracts

/-- **Step lemma.** What is known of a world is known of the next one, with the move taken into account. -/
theorem AnalysisInvariant.step {late : Prop} (h : AnalysisInvariant contracts late w)
    (hstep : AnalysisStep contracts w m) :
    AnalysisInvariant contracts
      (w.isStale contracts m = true ∨ (late ∧ w.decides contracts m = false)) (w.step m) := by
  cases hstep with
  | stays hdecides hcontract hloaded hcalls =>
    have huses : (w.step m).session.UsesSelected contracts ↔ w.session.UsesSelected contracts := by
      simp only [Session.UsesSelected, Session.Uses, hcontract, hloaded]
    rw [not_isStale_of_not_decides hdecides]
    refine ⟨?_, ?_⟩
    · rintro (hstale | ⟨hlate, -⟩)
      · cases hstale
      · rw [huses]
        exact h.stale hlate
    · intro hfresh
      rcases h.fresh (fun hlate => hfresh (.inr ⟨hlate, hdecides⟩)) with hfits | hawaits
      · exact .inl (huses.mpr hfits)
      · obtain ⟨c, requests, hcall, hselected⟩ := hawaits
        exact .inr ⟨c, requests, hcalls c requests hcall, hcontract.trans hselected⟩
  | selects hdecides c requests hcontract hcall hunused =>
    -- Whatever came before, another analysis is in use, and the right one is waited for.
    exact ⟨fun _ huses => hunused (huses c hcontract), fun _ => .inr ⟨c, requests, hcall, hcontract⟩⟩
  | fits hdecides hstale huses =>
    refine ⟨?_, fun _ => .inl huses⟩
    rintro (hstale' | ⟨-, hdecides'⟩)
    · rw [hstale] at hstale'; cases hstale'
    · rw [hdecides] at hdecides'; cases hdecides'
  | stale hstale hunused => exact ⟨fun _ => hunused, fun hfresh => absurd (.inl hstale) hfresh⟩

/-- **Run lemma.** What is known of a world is known after every run of a steady session. -/
theorem analysisInvariant_run (hanalyzable : ∀ c ∈ contracts, c.analyzable = true) (config : Config)
    {moves : List Move} (hmoves : (loaded config contracts).Along (Steady engine) moves) :
    ((loaded config contracts).run moves).Grounded contracts ∧
      AnalysisInvariant contracts ((loaded config contracts).LeftStale contracts moves)
        ((loaded config contracts).run moves) := by
  -- The induction is on the end of the run: which move decided last depends on the whole run so far.
  induction moves using List.reverseRecOn with
  | nil =>
    refine ⟨grounded_loaded config contracts, ?_, ?_⟩
    · exact fun hlate => absurd hlate (not_leftStale_nil _)
    · exact fun _ => .inl fun c hc => by cases hc
  | append_singleton moves m ih =>
    rw [along_append] at hmoves
    obtain ⟨hmoves, hm, -⟩ := hmoves
    obtain ⟨hgrounded, hinv⟩ := ih hmoves
    rw [leftStale_concat, run_append]
    exact ⟨hgrounded.step hm, hinv.step (analysisStep hanalyzable hgrounded hm)⟩

/-- **Analysis freshness, as far as it goes.** Take contracts that can all be analysed, and any run of
    calls on a session that has loaded them.  Whenever no call waits, the analysis in use is the engine's
    analysis of the contract that the selection is in if and only if the last move that decided did not
    bring the analysis of a contract that had been left. -/
theorem analysisFits_iff_not_leftStale {engine : Oracle} {contracts : List Contract}
    (hanalyzable : ∀ c ∈ contracts, c.analyzable = true) (config : Config) {moves : List Move}
    (hmoves : (loaded config contracts).Along (Steady engine) moves)
    (hidle : ((loaded config contracts).run moves).calls = []) :
    ((loaded config contracts).run moves).session.AnalysisFits engine contracts ↔
      ¬ (loaded config contracts).LeftStale contracts moves := by
  have hprovenance : ((loaded config contracts).run moves).session.Provenance engine :=
    provenance_run (provenance_loaded config contracts) (hmoves.forall_mem fun _ _ hm => hm.1.1)
  have hinv := (analysisInvariant_run hanalyzable config hmoves).2
  rw [hprovenance.analysisFits_iff]
  refine ⟨fun huses hlate => hinv.stale hlate huses, fun hfresh => ?_⟩
  rcases hinv.fresh hfresh with huses | ⟨c, requests, hcall, -⟩
  · exact huses
  · rw [hidle] at hcall
    exact absurd hcall List.not_mem_nil

/-- The first contract is selected again before the analysis of the second one comes. -/
def overtakenSelection : List Move :=
  let engine := Archive.ofVaultAndToken.oracle
  [.issue (.dispatch (.selectContract 1)), .reply 0 engine, .reply 0 engine,
    .issue (.dispatch (.selectContract 2)), .issue (.dispatch (.selectContract 1)),
    .reply 1 engine, .reply 0 engine, .reply 0 engine]

/-- Nothing fails in this run. -/
theorem steady_overtakenSelection :
    (loaded {} Archive.ofVaultAndToken.contracts).Along (Steady Archive.ofVaultAndToken.oracle)
      overtakenSelection := by
  refine ⟨?_, ?_, ?_, ?_, ?_, ?_, ?_, ?_, trivial⟩ <;>
    exact ⟨⟨by simp [Move.HonestTo, Move.Tells], by decide +kernel, rfl⟩, rfl⟩

/-- The analysis of the first contract comes last, when the second one is selected. -/
theorem analysisFits_iff_not_leftStale_of_overtakenSelection :
    (∀ c ∈ Archive.ofVaultAndToken.contracts, c.analyzable = true) ∧
      (loaded {} Archive.ofVaultAndToken.contracts).Along (Steady Archive.ofVaultAndToken.oracle)
        overtakenSelection ∧
      ((loaded {} Archive.ofVaultAndToken.contracts).run overtakenSelection).calls = [] ∧
      (((loaded {} Archive.ofVaultAndToken.contracts).run overtakenSelection).session.AnalysisFits
          Archive.ofVaultAndToken.oracle Archive.ofVaultAndToken.contracts ↔
        ¬ (loaded {} Archive.ofVaultAndToken.contracts).LeftStale Archive.ofVaultAndToken.contracts
          overtakenSelection) := by
  have hanalyzable : ∀ c ∈ Archive.ofVaultAndToken.contracts, c.analyzable = true := by decide +kernel
  have hidle : ((loaded {} Archive.ofVaultAndToken.contracts).run overtakenSelection).calls = [] := by
    decide +kernel
  exact ⟨hanalyzable, steady_overtakenSelection, hidle,
    analysisFits_iff_not_leftStale hanalyzable {} steady_overtakenSelection hidle⟩

/-- **The analysis in use need not be that of the selection**, even if names and ids tell contracts and
    functions apart, and neither a call nor a background fetch is out. -/
theorem not_always_analysisFits :
    ¬ ∀ (engine : Oracle) (contracts : List Contract) (config : Config) (moves : List Move),
      (∀ c ∈ contracts, c.analyzable = true) →
      (contracts.map Contract.name).Nodup →
      (contracts.flatMap fun c => c.functions.map FunctionInfo.id).Nodup →
      (loaded config contracts).Along (Steady engine) moves →
      ((loaded config contracts).run moves).calls = [] →
      ((loaded config contracts).run moves).session.fetches = [] →
      ((loaded config contracts).run moves).session.AnalysisFits engine contracts := by
  intro h
  have hfits := h Archive.ofVaultAndToken.oracle Archive.ofVaultAndToken.contracts {}
    overtakenSelection (by decide +kernel) (by decide +kernel) (by decide +kernel)
    steady_overtakenSelection (by decide +kernel) (by decide +kernel)
  obtain ⟨l, hl, hname, -⟩ := hfits
    { id := 1, name := "Vault", functions := [{ id := 10, name := "deposit" }] } (by decide +kernel)
  -- The run ends at contract 1 with the analysis of the other contract.
  have htoken : ((loaded {} Archive.ofVaultAndToken.contracts).run
      overtakenSelection).session.loaded.map LoadedAnalysis.contract = some "Token" := by
    decide +kernel
  rw [hl, Option.map_some, hname] at htoken
  exact absurd htoken (by decide)

end World

end RangeAudit
