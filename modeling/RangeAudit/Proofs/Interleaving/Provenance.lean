import RangeAudit.Proofs.Interleaving.Change

namespace RangeAudit

/-!
# Where the data of a session come from

All data that a session holds are answers of its engine, each kept under what was asked for.

* `Session.Provenance` — the invariant: details, control-flow graphs, the analysis and the displayed
  source are the engine's answers for the function, contract and node that they are kept under;
* `Session.Change.provenance` — every change keeps it;
* `World.provenance_run` — hence every run keeps it;
* `World.held_data_eq_answers` — hence `Session.paths` and `Session.flowGraph` never show the data of a
  function other than the selected one.

Fields that belong together (the analysis and its contract, the displayed source with its node and its
index) only ever change together; this is all that the invariant needs.
-/

/-- The source of a node, which is empty if there is no node. -/
def Oracle.SourceOf (engine : Oracle) : Option Int → MappedSource → Prop
  | none, source => source = {}
  | some nodeId, source => engine (.source nodeId) = .ok source

namespace Session

/-- The data of a session are answers of the engine. -/
structure Provenance (engine : Oracle) (s : Session) : Prop where
  details : ∀ entry ∈ s.details, engine (.detail entry.1) = .ok entry.2
  flowGraphs : ∀ entry ∈ s.flowGraphs, engine (.flowGraph entry.1) = .ok entry.2
  loaded : ∀ l, s.loaded = some l → engine (.analysis l.contract) = .ok l.analysis
  source : engine.SourceOf s.display.node s.display.source
  index : s.display.index = NodeIndex.ofPlaces s.display.source.places

/-- What `paths` shows belongs to the selected function: nothing, its detailed paths, or its paths in
    the analysis in use.  The view is refused only while nothing is loaded. -/
structure PathsOfSelected (engine : Oracle) (s : Session) : Prop where
  shown : ∀ paths, s.paths = .ok (some paths) →
    ∃ functionId, s.selection.functionId = some functionId ∧
      (engine (.detail functionId) = .ok paths ∨
        ∃ l f, s.loaded = some l ∧ l.analysis.function? functionId = some f ∧
          f.functionId = functionId ∧ f.paths = paths)
  refused : ∀ fault, s.paths = .error fault → fault = .notLoaded ∧ s.contracts = none

/-- What `flowGraph` shows belongs to the selected function. -/
def FlowGraphOfSelected (engine : Oracle) (s : Session) : Prop :=
  ∀ graph, s.flowGraph = some graph →
    ∃ functionId, s.selection.functionId = some functionId ∧
      engine (.flowGraph functionId) = .ok (some graph)

/-! ### The invariant -/

variable {engine : Oracle} {s t : Session}

/-- Provenance looks only at the data. -/
theorem Provenance.congr (h : s.Provenance engine) (hdetails : t.details = s.details)
    (hgraphs : t.flowGraphs = s.flowGraphs) (hloaded : t.loaded = s.loaded)
    (hdisplay : t.display = s.display) : t.Provenance engine := by
  refine ⟨?_, ?_, ?_, ?_, ?_⟩
  · rw [hdetails]; exact h.details
  · rw [hgraphs]; exact h.flowGraphs
  · rw [hloaded]; exact h.loaded
  · rw [hdisplay]; exact h.source
  · rw [hdisplay]; exact h.index

/-- A session that holds no data, and displays nothing. -/
theorem provenance_blank (hdetails : s.details = []) (hgraphs : s.flowGraphs = [])
    (hloaded : s.loaded = none) (hdisplay : s.display = Display.of none {}) :
    s.Provenance engine := by
  refine ⟨by simp [hdetails], by simp [hgraphs], by simp [hloaded], ?_, ?_⟩
  · rw [hdisplay]; exact rfl
  · rw [hdisplay]; exact rfl

/-- Reading a view leaves the data as they are. -/
theorem Provenance.read (h : s.Provenance engine) (view : KeptView) :
    (s.read view).Provenance engine := by
  obtain ⟨memo, hread⟩ := s.read_eq view
  rw [hread]
  exact h.congr rfl rfl rfl rfl

/-- **Step lemma.** Every change keeps the provenance. -/
theorem Change.provenance (hchange : Change (fun q v => engine q = .ok v) s t)
    (h : s.Provenance engine) : t.Provenance engine := by
  cases hchange with
  | navigate event => exact h.congr rfl rfl rfl rfl
  | spawn aim functionId => exact h.congr rfl rfl rfl rfl
  | present nodeId source hsource =>
    exact { h with source := hsource, index := rfl }
  | useAnalysis contract a ha =>
    -- The tables of functions are emptied, so only the analysis itself is to be looked at.
    refine { h with details := ?_, flowGraphs := ?_, loaded := ?_ }
    · exact fun entry hentry => absurd hentry List.not_mem_nil
    · exact fun entry hentry => absurd hentry List.not_mem_nil
    · intro l hl
      cases hl
      exact ha
  | unload => exact provenance_blank rfl rfl rfl rfl
  | enter contracts => exact h.congr rfl rfl rfl rfl
  | close f => exact h.congr rfl rfl rfl rfl
  | keepFlowGraph functionId graph hgraph =>
    refine { h with flowGraphs := ?_ }
    intro entry hentry
    rcases Entries.mem_put hentry with rfl | hold
    · exact hgraph
    · exact h.flowGraphs entry hold
  | keepDetail functionId paths hpaths =>
    refine { h with details := ?_ }
    intro entry hentry
    rcases Entries.mem_put hentry with rfl | hold
    · exact hpaths
    · exact h.details entry hold
  | read view => exact h.read view

/-! ### What is shown -/

/-- Paths are known only while a function is selected: the detailed ones if these are held, else those
    of the analysis. -/
theorem knownPaths_eq_some {paths : List PathTrace} (h : s.knownPaths = some paths) :
    ∃ functionId, s.selection.functionId = some functionId ∧
      (s.details.find? functionId = some paths ∨
        ∃ l f, s.loaded = some l ∧ l.analysis.function? functionId = some f ∧ f.paths = paths) := by
  simp only [knownPaths, Option.bind_eq_bind, Option.bind_eq_some_iff] at h
  obtain ⟨functionId, hselected, h⟩ := h
  refine ⟨functionId, hselected, ?_⟩
  split at h
  · rename_i held hfind
    cases h
    exact .inl hfind
  · simp only [Option.map_eq_some_iff, Option.bind_eq_some_iff, analysis?] at h
    obtain ⟨a, ⟨l, hl, rfl⟩, f, hf, hpaths⟩ := h
    exact .inr ⟨l, f, hl, hf, hpaths⟩

/-- Whenever paths are answered, they are the known ones. -/
theorem eq_knownPaths_of_paths_ok {paths : Option (List PathTrace)} (h : s.paths = .ok paths) :
    paths = s.knownPaths := by
  unfold Session.paths at h
  split at h
  · rename_i hselected
    cases h
    simp [knownPaths, hselected]
  · split at h
    · cases h; rfl
    · cases hcontracts : s.contracts with
      | none => simp [contractList, hcontracts, Except.map] at h
      | some contracts =>
        simp only [contractList, hcontracts, Except.map, Except.ok.injEq] at h
        exact h.symm

/-- Paths are refused only while nothing is loaded. -/
theorem notLoaded_of_paths_error {fault : Fault} (h : s.paths = .error fault) :
    fault = .notLoaded ∧ s.contracts = none := by
  unfold Session.paths at h
  split at h
  · cases h
  · split at h
    · cases h
    · cases hcontracts : s.contracts with
      | none =>
        simp only [contractList, hcontracts, Except.map, Except.error.injEq] at h
        exact ⟨h.symm, rfl⟩
      | some contracts => simp [contractList, hcontracts, Except.map] at h

/-- The paths of the selected function are what the engine answers. -/
theorem Provenance.pathsOfSelected (h : s.Provenance engine) : s.PathsOfSelected engine := by
  refine ⟨?_, fun fault hfault => notLoaded_of_paths_error hfault⟩
  intro paths hpaths
  have hknown := (eq_knownPaths_of_paths_ok hpaths).symm
  obtain ⟨functionId, hselected, hheld | ⟨l, f, hl, hf, hfpaths⟩⟩ := knownPaths_eq_some hknown
  · exact ⟨functionId, hselected, .inl (h.details _ (Entries.mem_of_find? hheld))⟩
  · have hid : f.functionId = functionId := by simpa using List.find?_some hf
    exact ⟨functionId, hselected, .inr ⟨l, f, hl, hf, hid, hfpaths⟩⟩

/-- The control-flow graph of the selected function is what the engine answers. -/
theorem Provenance.flowGraphOfSelected (h : s.Provenance engine) :
    s.FlowGraphOfSelected engine := by
  intro graph hgraph
  simp only [Session.flowGraph, Option.bind_eq_bind, Option.bind_eq_some_iff] at hgraph
  obtain ⟨functionId, hselected, held, hfind, hheld⟩ := hgraph
  refine ⟨functionId, hselected, ?_⟩
  have hanswer := h.flowGraphs _ (Entries.mem_of_find? hfind)
  rw [hheld] at hanswer
  exact hanswer

/-- A session at which nothing has happened displays nothing. -/
theorem display_of_nothing : Display.of none {} = {} := by
  simp [Display.of, NodeIndex.ofPlaces]

end Session

namespace World

variable {engine : Oracle}

theorem provenance_fresh (config : Config) : (fresh config).session.Provenance engine :=
  Session.provenance_blank rfl rfl rfl Session.display_of_nothing.symm

theorem provenance_loaded (config : Config) (contracts : List Contract) :
    (loaded config contracts).session.Provenance engine :=
  Session.provenance_blank rfl rfl rfl Session.display_of_nothing.symm

/-- Data that are answers of the engine are so after every run. -/
theorem provenance_run {w : World} (hw : w.session.Provenance engine) {moves : List Move}
    (hmoves : ∀ m ∈ moves, m.HonestTo engine) : (w.run moves).session.Provenance engine :=
  session_invariant (Session.Provenance engine) (fun hchange h => hchange.provenance h) hw hmoves

/-- **Provenance.** After every run at a deterministic engine, whose calls may fail at any time, all data
    that the session holds are the engine's answers for what they are kept under, and no view of paths
    or of the control-flow graph shows the data of a function other than the selected one. -/
theorem held_data_eq_answers (config : Config) {moves : List Move}
    (hmoves : ∀ m ∈ moves, m.HonestTo engine) :
    ((fresh config).run moves).session.Provenance engine ∧
      ((fresh config).run moves).session.PathsOfSelected engine ∧
      ((fresh config).run moves).session.FlowGraphOfSelected engine := by
  have h := provenance_run (provenance_fresh config) hmoves
  exact ⟨h, h.pathsOfSelected, h.flowGraphOfSelected⟩

/-- Two selections overlap, so that the source of the contract comes when a function is selected, and
    the analysis of another contract cannot be had. -/
def overlappingVisits : List Move :=
  let engine := Archive.ofVaultAndToken.oracle
  [.issue .load, .reply 0 engine,
    .issue (.dispatch (.selectContract 1)), .reply 0 engine,
    .issue (.dispatch (.selectFunction 10 none)), .reply 0 engine, .reply 0 engine,
    .deliver ⟨0, .flowGraph, 10⟩ engine, .deliver ⟨1, .detail, 10⟩ engine,
    .issue (.dispatch (.selectFunction 20 none)), .reply 0 fun _ => .error .notLoaded]

/-- Two visits overlap, and still the data are those of the selected function. -/
theorem held_data_eq_answers_of_overlappingVisits :
    (∀ m ∈ overlappingVisits, m.HonestTo Archive.ofVaultAndToken.oracle) ∧
      ((fresh {}).run overlappingVisits).session.Provenance Archive.ofVaultAndToken.oracle ∧
      ((fresh {}).run overlappingVisits).session.PathsOfSelected Archive.ofVaultAndToken.oracle ∧
      ((fresh {}).run overlappingVisits).session.FlowGraphOfSelected
        Archive.ofVaultAndToken.oracle := by
  have hmoves : ∀ m ∈ overlappingVisits, m.HonestTo Archive.ofVaultAndToken.oracle := by
    simp [overlappingVisits, Move.HonestTo, Move.Tells]
  exact ⟨hmoves, held_data_eq_answers {} hmoves⟩

-- The data of the selected function did arrive, so the tables are not empty here.
example :
    ((fresh {}).run overlappingVisits).session.details.keys = [10] ∧
      ((fresh {}).run overlappingVisits).session.flowGraphs.keys = [10] := by
  decide +kernel

end World

end RangeAudit
