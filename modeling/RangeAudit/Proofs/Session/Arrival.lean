import RangeAudit.Proofs.Interleaving.AnalysisFreshness
import RangeAudit.Proofs.Session.AtRest

namespace RangeAudit

/-!
# What a session shows of a function

From a session at rest a function is selected, whose owner can be analysed.  Once everything has come, the
session holds the engine's answers for the function and its owner, and every panel shows these and nothing
else: no view tells what was selected before.

* `Session.Panels`, `Session.panels` — all that the panels show of the selection;
* `Session.Shows` — the answers for a function and its owner are what the session holds of them;
* `Session.panels_eq_of_shows` — sessions of which this is true cannot be told apart by their panels;
* `Session.AtRest.shows_of_called` — it is true once the selection of the function has succeeded;
* `Session.AtRest.called_eq_ok_iff` — which depends on the engine only.
-/

namespace Session

/-- All that the panels show of the selection. -/
structure Panels where
  selection : Selection
  display : Display
  loaded : Option LoadedAnalysis
  paths : Except Fault (Option (List PathTrace))
  flowGraph : Option Wire.Value
  risks : Except Fault (Entries Int LineRisk)
  notes : Except Fault (Entries Int (List RangeNote))
  lines : Except Fault (List MarginLine)
  riskSummary : Except Fault (Entries String Nat)
  callers : List FunctionLink
  callees : List FunctionLink
  callGraph : Except Fault CallGraph
  stateAccesses : Except Fault (List StateAccess)
  globalRanges : Except Fault (List GlobalRange)

/-- What the panels show of a session. -/
def panels (s : Session) : Panels where
  selection := s.selection
  display := s.display
  loaded := s.loaded
  paths := s.paths
  flowGraph := s.flowGraph
  risks := s.riskMap.1
  notes := s.rangeNotes.1
  lines := s.marginLines.1
  riskSummary := s.riskSummary
  callers := s.callers
  callees := s.callees
  callGraph := s.callGraph
  stateAccesses := s.stateAccesses
  globalRanges := s.globalRanges

/-- A function is selected in a contract, and what the session holds of the two are the engine's answers:
    the analysis of the contract, and the source, the control-flow graph and, if the function has a summary,
    the detailed paths of the function.  What could not be had is not there. -/
structure Shows (engine : Oracle) (owner : Contract) (functionId : Int) (s : Session) : Prop where
  selection : s.selection = { contractId := some owner.id, functionId := some functionId }
  loaded : ∃ a, engine (.analysis owner.name) = .ok a ∧ s.loaded = some ⟨owner.name, a⟩
  display : ∃ source, engine (.source functionId) = .ok source ∧
    s.display = Display.of (some functionId) source
  flowGraph : s.flowGraphs.find? functionId = (engine (.flowGraph functionId)).toOption
  detail : s.details.find? functionId =
    if s.hasSummary functionId then (engine (.detail functionId)).toOption else none

variable {engine : Oracle} {contracts : List Contract} {owner : Contract} {functionId : Int}
  {s t : Session} {event : NavigationEvent}

/-! ### Panels -/

/-- **The answers determine the panels.** Two ready sessions with equal settings that show the same function
    of the same contract have equal panels, whatever else they hold. -/
theorem panels_eq_of_shows (hs : s.Shows engine owner functionId) (ht : t.Shows engine owner functionId)
    (hsready : s.Ready) (htready : t.Ready) (hconfig : s.config = t.config) : s.panels = t.panels := by
  have hselection : s.selection = t.selection := hs.selection.trans ht.selection.symm
  have hfunction : t.selection.functionId = some functionId := by rw [ht.selection]
  have hloaded : s.loaded = t.loaded := by
    obtain ⟨a, ha, hsloaded⟩ := hs.loaded
    obtain ⟨a', ha', htloaded⟩ := ht.loaded
    rw [ha, Except.ok.injEq] at ha'
    rw [hsloaded, htloaded, ha']
  have hdisplay : s.display = t.display := by
    obtain ⟨source, hsource, hsdisplay⟩ := hs.display
    obtain ⟨source', hsource', htdisplay⟩ := ht.display
    rw [hsource, Except.ok.injEq] at hsource'
    rw [hsdisplay, htdisplay, hsource']
  have hanalysis : s.analysis? = t.analysis? := by rw [analysis?, analysis?, hloaded]
  -- The tables may hold more than this function, but no view looks at another entry.
  have hdetail : s.details.find? functionId = t.details.find? functionId := by
    rw [hs.detail, ht.detail, hasSummary, hasSummary, hanalysis]
  have hpaths : s.knownPaths = t.knownPaths := by
    simp only [knownPaths, hselection, hfunction, Option.bind_eq_bind, Option.bind_some, hdetail, hanalysis]
  have hgraph : s.flowGraph = t.flowGraph := by
    simp only [Session.flowGraph, hselection, hfunction, Option.bind_eq_bind, Option.bind_some, hs.flowGraph,
      ht.flowGraph]
  have hcallers : s.callers = t.callers := by rw [callers, callers, hselection, hanalysis]
  have hcallees : s.callees = t.callees := by rw [callees, callees, hselection, hanalysis]
  have hcallGraph : s.callGraph = t.callGraph := by
    rw [callGraph, callGraph, hsready.contractList_map, htready.contractList_map, hselection, hanalysis]
  have haccesses : s.stateAccesses = t.stateAccesses := by
    rw [stateAccesses, stateAccesses, hsready.contractList_map, htready.contractList_map, hselection,
      hanalysis]
  have hranges : s.globalRanges = t.globalRanges := by
    rw [globalRanges, globalRanges, hsready.contractList_map, htready.contractList_map, hselection,
      hanalysis]
  simp only [panels, hsready.paths, htready.paths, hsready.riskMap, htready.riskMap, hsready.rangeNotes,
    htready.rangeNotes, hsready.marginLines, htready.marginLines, hsready.riskSummary, htready.riskSummary,
    hpaths, hgraph, hcallers, hcallees, hcallGraph, haccesses, hranges, hselection, hloaded, hdisplay,
    hanalysis, hconfig]

/-! ### Selecting a function -/

/-- When the function is selected, its source is displayed, the analysis of its owner is in use and nothing
    else is out, then what is sent out for the function is all that is still to come. -/
theorem shows_of_sentFor
    (hselection : s.selection = { contractId := some owner.id, functionId := some functionId })
    (hloaded : ∃ a, engine (.analysis owner.name) = .ok a ∧ s.loaded = some ⟨owner.name, a⟩)
    (hdisplay : ∃ source, engine (.source functionId) = .ok source ∧
      s.display = Display.of (some functionId) source)
    (hgraphs : ∀ entry ∈ s.flowGraphs, engine (.flowGraph entry.1) = .ok entry.2)
    (hdetails : ∀ entry ∈ s.details, engine (.detail entry.1) = .ok entry.2)
    (hsummarised : s.Summarised) (hidle : s.fetches = []) :
    ((s.sentFor functionId).settled engine).Shows engine owner functionId := by
  have hselected : s.selection.functionId = some functionId := by rw [hselection]
  obtain ⟨hgraphs', hdetails'⟩ := settled_sentFor engine hselected hidle
  have hsame : ((s.sentFor functionId).settled engine).selection = s.selection ∧
      ((s.sentFor functionId).settled engine).loaded = s.loaded ∧
      ((s.sentFor functionId).settled engine).display = s.display := by
    obtain ⟨_, _, _, _, _, hsettled⟩ := settled_eq engine (s.sentFor functionId)
    rw [hsettled]
    exact ⟨sentFor_selection s functionId, sentFor_loaded s functionId, sentFor_display s functionId⟩
  obtain ⟨hselection', hloaded', hdisplay'⟩ := hsame
  refine ⟨?_, ?_, ?_, ?_, ?_⟩
  · rw [hselection', hselection]
  · rw [hloaded']
    exact hloaded
  · rw [hdisplay']
    exact hdisplay
  · rw [hgraphs']
    exact Entries.find?_putAnswer (fun id => engine (.flowGraph id)) hgraphs functionId
  · have hsummary : ((s.sentFor functionId).settled engine).hasSummary functionId =
        s.hasSummary functionId := by
      rw [hasSummary, hasSummary, analysis?, analysis?, hloaded']
    rw [hdetails', hsummary]
    split
    · exact Entries.find?_putAnswer (fun id => engine (.detail id)) hdetails functionId
    · rename_i hnone
      -- Without a summary nothing was sent for, and no details are left from before.
      cases hfind : s.details.find? functionId with
      | none => rfl
      | some paths => exact absurd (hsummarised.held _ (Entries.mem_of_find? hfind)) hnone

/-- An analysis that can be had is used, whether it must be fetched or is in use already. -/
theorem Provenance.loaded_of_analysed (h : s.Provenance engine) (hanalyzable : owner.analyzable = true)
    (hok : s.analysed engine owner = .ok t) :
    ∃ a, engine (.analysis owner.name) = .ok a ∧ t.loaded = some ⟨owner.name, a⟩ := by
  rcases analysed_eq_ok hok with ⟨hneeds, rfl⟩ | ⟨-, a, ha, rfl⟩
  · obtain ⟨l, hl, hname⟩ := Option.map_eq_some_iff.mp (uses_of_not_needs hanalyzable hneeds)
    refine ⟨l.analysis, ?_, ?_⟩
    · rw [← hname]
      exact h.loaded l hl
    · rw [hl, ← hname]
  · exact ⟨a, ha, rfl⟩

namespace AtRest

/-- Using the analysis of a contract leaves a session at rest. -/
theorem analysed (h : s.AtRest engine contracts) {c : Contract} (hok : s.analysed engine c = .ok t) :
    t.AtRest engine contracts := by
  rcases analysed_eq_ok hok with ⟨-, rfl⟩ | ⟨-, a, ha, rfl⟩
  · exact h
  · have hchange : Change (fun q v => engine q = .ok v) s (s.useAnalysis c.name a) :=
      .useAnalysis s c.name a ha
    exact ⟨h.contracts, h.undrilled, hchange.memoCoherent h.memo, hchange.provenance h.provenance,
      summarised_useAnalysis h.idle c.name a, h.idle⟩

/-- At rest, the analysis of a contract can be had if and only if the engine answers with one. -/
theorem isOk_analysed (h : s.AtRest engine contracts) (hanalyzable : owner.analyzable = true) :
    (s.analysed engine owner).isOk = (engine (.analysis owner.name)).isOk := by
  cases hok : s.analysed engine owner with
  | ok t =>
    obtain ⟨a, ha, -⟩ := h.provenance.loaded_of_analysed hanalyzable hok
    rw [ha]
    rfl
  | error fault =>
    unfold Session.analysed at hok
    split at hok
    · cases hanswer : engine (.analysis owner.name) with
      | error fault => rfl
      | ok a => rw [hanswer] at hok; cases hok
    · cases hok

/-- Once the selection of a function has succeeded and everything has come, the function is shown. -/
theorem shows_of_called (h : s.AtRest engine contracts) (hevent : event.function? = some functionId)
    (howner : Contract.ownerOf? contracts functionId = some owner) (hanalyzable : owner.analyzable = true)
    (hok : (s.called engine (.dispatch event)).1 = .ok ()) :
    ((s.called engine (.dispatch event)).2.settled engine).Shows engine owner functionId := by
  rw [called_function h.contracts hevent, howner] at hok ⊢
  dsimp only at hok ⊢
  cases hanalysed : s.analysed engine owner with
  | error fault => rw [hanalysed] at hok; cases hok
  | ok t =>
    have ht := h.analysed hanalysed
    have hloaded := h.provenance.loaded_of_analysed hanalyzable hanalysed
    rw [hanalysed] at hok
    dsimp only [opened] at hok ⊢
    cases hsource : engine (.source functionId) with
    | error fault => rw [hsource] at hok; cases hok
    | ok source =>
      exact shows_of_sentFor rfl hloaded ⟨source, hsource, rfl⟩
        ht.provenance.flowGraphs ht.provenance.details ⟨ht.summarised.held, ht.summarised.out⟩ ht.idle

/-- Whether the selection of a function succeeds depends on the engine only. -/
theorem called_eq_ok_iff (h : s.AtRest engine contracts) (hevent : event.function? = some functionId)
    (howner : Contract.ownerOf? contracts functionId = some owner)
    (hanalyzable : owner.analyzable = true) :
    (s.called engine (.dispatch event)).1 = .ok () ↔
      (engine (.analysis owner.name)).isOk = true ∧ (engine (.source functionId)).isOk = true := by
  rw [called_function h.contracts hevent, howner, ← h.isOk_analysed hanalyzable]
  dsimp only
  cases s.analysed engine owner with
  | error fault => simp [Except.isOk, Except.toBool]
  | ok t =>
    dsimp only [opened]
    cases engine (.source functionId) <;> simp [Except.isOk, Except.toBool]

end AtRest

end Session

end RangeAudit
