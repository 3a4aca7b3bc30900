import RangeAudit.Proofs.Interleaving.Provenance
import RangeAudit.Proofs.Interleaving.Turns
import RangeAudit.Proofs.Margin.MergedLines

namespace RangeAudit

/-!
# Listed paths and the selected one

Paths are listed with their positions among all paths of the function, and are selected by these.  The index that
the engine gave a path plays no part in this.

* `PathFilter.Admits` — which paths a filter lets through;
* `PathFilter.mem_select_iff`, `PathFilter.pairwise_select` — what is listed, and in which order;
* `Session.knownPaths_navigate` — the paths stay as long as no function and no contract is selected;
* `Session.ShowsPath` — a path is selected, and all views of the selected path show it;
* `Session.Ready.showsPath` — it is so after the selection of a position at which there is a path;
* `World.selectPath_shows_listed` — hence after every run, whichever listed position is selected.
-/

/-! ### What is listed -/

namespace PathFilter

/-- The paths that a filter lets through: those that return, those that revert, or those with findings. -/
structure Admits (f : PathFilter) (path : PathTrace) : Prop where
  returns : f = .returns → path.exit = .returns
  reverts : f = .reverts → path.exit = .reverts
  arith : f = .arith → path.checks ≠ []

/-- A path meets a filter if the filter admits it. -/
theorem meets_iff_admits {f : PathFilter} {path : PathTrace} : f.meets path = true ↔ f.Admits path := by
  constructor
  · intro h
    refine ⟨?_, ?_, ?_⟩
    · rintro rfl
      simpa [meets] using h
    · rintro rfl
      simpa [meets] using h
    · rintro rfl
      simpa [meets] using h
  · intro h
    cases f with
    | all => rfl
    | returns => simpa [meets] using h.returns rfl
    | reverts => simpa [meets] using h.reverts rfl
    | arith => simpa [meets] using h.arith rfl

variable (f : PathFilter) (includeInfeasible : Bool) (paths : List PathTrace)

/-- Exactly the paths that the filter lets through are listed, each with its position; infeasible ones only if
    these are included. -/
theorem mem_select_iff {k : Nat} {path : PathTrace} :
    (k, path) ∈ f.select includeInfeasible paths ↔
      paths[k]? = some path ∧ (path.feasible = true ∨ includeInfeasible = true) ∧ f.Admits path := by
  simp [select, List.mem_zipIdx_iff_getElem?, meets_iff_admits, Prod.ext_iff]

/-- The positions are strictly increasing. -/
theorem pairwise_select : ((f.select includeInfeasible paths).map Prod.fst).Pairwise (· < ·) := by
  have hpositions : paths.zipIdx.Pairwise fun a b => a.2 < b.2 := by
    rw [← List.pairwise_map (f := Prod.snd) (R := (· < ·)), List.zipIdx_map_snd]
    exact List.pairwise_lt_range'
  rw [select, List.map_map]
  exact List.pairwise_map.mpr (hpositions.filter _)

end PathFilter

/-! ### What is selected -/

/-- Where a function is selected, a position is selected with its first step, and the inspector shows the
    path. -/
theorem Selection.apply_selectPath {s : Selection} (hfunction : s.functionId.isSome) {k : Int} (hk : 0 ≤ k)
    (hasSummary : Int → Bool) :
    (s.apply hasSummary (.selectPath k)).1 =
      { s with pathIndex := some k, stepIndex := some 0, mode := .path } := by
  have hignored : (k < 0 || s.functionId.isNone) = false := by
    simp [Int.not_lt.mpr hk, hfunction]
  simp only [Selection.apply, hignored, Bool.false_eq_true, if_false]

namespace Session

variable {s t : Session} {event : NavigationEvent}

/-- The known paths depend only on the selected function and the data that are held for it. -/
theorem knownPaths_congr (hfunction : t.selection.functionId = s.selection.functionId)
    (hdetails : t.details = s.details) (hloaded : t.loaded = s.loaded) : t.knownPaths = s.knownPaths := by
  rw [knownPaths, knownPaths, analysis?, analysis?, hfunction, hdetails, hloaded]

/-- An event that selects neither a contract nor a function leaves the known paths. -/
theorem knownPaths_navigate (s : Session) (h : event.selects = false) :
    (s.navigate event).1.knownPaths = s.knownPaths :=
  knownPaths_congr (s.selection.apply_of_not_selects s.hasSummary h).2 rfl rfl

/-- Where a function is selected, a position can be. -/
theorem pathIndex_navigate (hfunction : s.selection.functionId.isSome) {k : Int} (hk : 0 ≤ k) :
    (s.navigate (.selectPath k)).1.selection.pathIndex = some k := by
  show (s.selection.apply s.hasSummary (.selectPath k)).1.pathIndex = some k
  rw [Selection.apply_selectPath hfunction hk]

/-- The selected one of some paths is at the selected position. -/
theorem pathAmong_some {k : Int} (hk : 0 ≤ k) (h : s.selection.pathIndex = some k)
    (paths : List PathTrace) : s.pathAmong (some paths) = paths[k.toNat]? := by
  simp [pathAmong, h, Int.not_lt.mpr hk]

/-- A path is selected among some paths, and all views of the selected path show it. -/
structure ShowsPath (s : Session) (paths : List PathTrace) (path : PathTrace) : Prop where
  paths_eq : s.paths = .ok (some paths)
  selectedPath_eq : s.selectedPath = .ok (some path)
  rangeNotes_eq : s.rangeNotes.1 = .ok (RangeAudit.rangeNotes (some path) s.display.index s.config)
  stepDiffs_eq : s.stepDiffs =
    .ok (Tracker.allStepDiffs { path := path, digits := s.config.shortDigits })

namespace Ready

theorem navigate (h : s.Ready) (event : NavigationEvent) : (s.navigate event).1.Ready := by
  have hchange : Change (fun _ _ => True) s (s.navigate event).1 := .navigate s event
  exact ⟨h.loaded, h.undrilled, hchange.memoCoherent h.memo⟩

/-- The selected path is one of those that are known. -/
theorem selectedPath (h : s.Ready) : s.selectedPath = .ok (s.pathAmong s.knownPaths) := by
  rw [Session.selectedPath, h.paths]
  rfl

/-- The path at the selected position is shown. -/
theorem showsPath (h : s.Ready) {paths : List PathTrace} {path : PathTrace} {k : Int} (hk : 0 ≤ k)
    (hpaths : s.knownPaths = some paths) (hselected : s.selection.pathIndex = some k)
    (hpath : paths[k.toNat]? = some path) : s.ShowsPath paths path := by
  have hamong : s.pathAmong s.knownPaths = some path := by
    rw [hpaths, pathAmong_some hk hselected, hpath]
  have hactive : activePath? (s.knownPaths.getD []) s.selection.pathIndex = some path := by
    rw [hpaths, hselected, Option.getD_some, ← hpath]
    simp [activePath?, Int.not_lt.mpr hk]
  refine ⟨?_, ?_, ?_, ?_⟩
  · rw [h.paths, hpaths]
  · rw [h.selectedPath, hamong]
  · rw [h.rangeNotes, hactive]
  · rw [h.stepDiffs, hamong]

end Ready

end Session

namespace World

/-- **A listed position selects the path that is listed.** After every run, whatever the engine answers, while
    contracts are loaded and paths of the selected function are known: with every filter, the positions are
    listed in strictly increasing order, each with the path that is there, and exactly those of the paths that
    the filter lets through and that are feasible, unless infeasible ones are included.  When one of these
    positions is selected, its path is the selected one, and the domain changes beside the lines and those of
    the steps are the path's, whichever views are read before. -/
theorem selectPath_shows_listed (config : Config) (moves : List Move)
    (hloaded : ((fresh config).run moves).session.contracts.isSome) {paths : List PathTrace}
    (hpaths : ((fresh config).run moves).session.paths = .ok (some paths))
    (f : PathFilter) (includeInfeasible : Bool) :
    let s := ((fresh config).run moves).session
    let listed := f.select includeInfeasible paths
    (listed.map Prod.fst).Pairwise (· < ·) ∧
      (∀ k path, (k, path) ∈ listed ↔
        paths[k]? = some path ∧ (path.feasible = true ∨ includeInfeasible = true) ∧ f.Admits path) ∧
      ∀ k path, (k, path) ∈ listed → ∀ views : List KeptView,
        let t := (s.navigate (.selectPath k)).1.readAll views
        t.display = s.display ∧ t.config = s.config ∧ t.ShowsPath paths path := by
  intro s listed
  refine ⟨f.pairwise_select includeInfeasible paths,
    fun k path => f.mem_select_iff includeInfeasible paths, ?_⟩
  intro k path hlisted views t
  obtain ⟨hpath, -, -⟩ := (f.mem_select_iff includeInfeasible paths).mp hlisted
  have hready : s.Ready := ready_run config moves hloaded
  have hknown : s.knownPaths = some paths := (Session.eq_knownPaths_of_paths_ok hpaths).symm
  obtain ⟨functionId, hfunction, -⟩ := Session.knownPaths_eq_some hknown
  have hselected : (s.navigate (.selectPath k)).1.selection.pathIndex = some (k : Int) :=
    Session.pathIndex_navigate (by rw [hfunction]; rfl) (Int.natCast_nonneg k)
  have hkept : (s.navigate (.selectPath k)).1.knownPaths = some paths :=
    (s.knownPaths_navigate (show NavigationEvent.selects (.selectPath k) = false from rfl)).trans hknown
  -- Reading views changes only what is kept.
  obtain ⟨memo, ht⟩ : ∃ memo, t = { (s.navigate (.selectPath k)).1 with memo := memo } :=
    Session.readAll_eq _ views
  have hready' : t.Ready := (hready.navigate _).readAll views
  exact ⟨by rw [ht]; rfl, by rw [ht]; rfl, hready'.showsPath (Int.natCast_nonneg k)
    (by rw [ht]; exact hkept) (by rw [ht]; exact hselected) hpath⟩

/-- A path that reverts, an infeasible one and one that returns.  Their indices are not their positions. -/
def threePaths : List PathTrace :=
  [{ index := 2, exit := .reverts, feasible := true }, { index := 0, exit := .returns, feasible := false },
    { index := 0, exit := .returns, feasible := true }]

/-- An archive of a function with these paths; no detailed ones were exported. -/
def archiveOfThreePaths : Archive where
  contracts := [{ id := 1, name := "Vault", functions := [{ id := 10, name := "deposit" }] }]
  analyses :=
    [("Vault", .obj
        [("functions", .arr [.obj [("functionId", .int 10), ("functionName", .str "deposit"),
          ("paths", .arr
            [.obj [("index", .int 2), ("exit", .str "revert"), ("feasible", .bool true)],
              .obj [("index", .int 0), ("exit", .str "return")],
              .obj [("index", .int 0), ("exit", .str "return"), ("feasible", .bool true)]])]]),
          ("summaries", .arr [.obj [("functionId", .int 10), ("functionName", .str "deposit")]])])]
  details := [(10, .null)]
  sources := [(10, .obj [("source", .str "x = a + b;"), ("lineMap", .arr [.arr [.int 1, .int 0, .int 5]])])]

/-- The function is selected, its source comes, and the margin is read; the detailed paths are still out. -/
def visitOfThreePaths : List Move :=
  let engine := archiveOfThreePaths.oracle
  [.issue .load, .reply 0 engine,
    .issue (.dispatch (.selectFunction 10 none)), .reply 0 engine, .reply 0 engine, .read .lines]

/-- Of the three paths, those that are feasible and return are listed, and each of them can be selected. -/
theorem selectPath_shows_listed_of_visitOfThreePaths :
    let s := ((fresh {}).run visitOfThreePaths).session
    let listed := PathFilter.returns.select false threePaths
    s.contracts.isSome ∧ s.paths = .ok (some threePaths) ∧
      (listed.map Prod.fst).Pairwise (· < ·) ∧
      (∀ k path, (k, path) ∈ listed ↔
        threePaths[k]? = some path ∧ (path.feasible = true ∨ false = true) ∧ PathFilter.returns.Admits path) ∧
      ∀ k path, (k, path) ∈ listed → ∀ views : List KeptView,
        let t := (s.navigate (.selectPath k)).1.readAll views
        t.display = s.display ∧ t.config = s.config ∧ t.ShowsPath threePaths path := by
  have hloaded : ((fresh {}).run visitOfThreePaths).session.contracts.isSome := by decide +kernel
  have hpaths : ((fresh {}).run visitOfThreePaths).session.paths = .ok (some threePaths) :=
    Except.toOption_eq_some.mp (by decide +kernel)
  exact ⟨hloaded, hpaths, selectPath_shows_listed {} visitOfThreePaths hloaded hpaths .returns false⟩

-- Only the last path is feasible and returns.
example : PathFilter.returns.select false threePaths =
    [(2, { index := 0, exit := .returns, feasible := true })] := by
  decide

end World

end RangeAudit
