import RangeAudit.Proofs.Interleaving.MemoCoherence

namespace RangeAudit

/-!
# What a session shows

While contracts are loaded and no drill has planted a fault, no view is refused, and each is a function of
the data: the paths that are known, the displayed source, the analysis in use, the selection and the
settings.

* `Session.Ready` — the sessions of which this is true, with coherent kept views;
* `World.ready_run` — after every run on a fresh session it is so while contracts are loaded;
* `Session.Ready.riskMap`, `Session.Ready.marginLines` and others — what each view is then.
-/

namespace Session

/-- Contracts are loaded, no drill has planted a fault, and the kept views are coherent. -/
structure Ready (s : Session) : Prop where
  loaded : s.contracts.isSome
  undrilled : s.planted = []
  memo : s.MemoCoherent

variable {s : Session}

/-- A projection gives what it computes. -/
theorem projected_of_undrilled (h : s.planted = []) (projection : Projection) (x : α) :
    s.projected projection x = .ok x := by
  rw [projected, h, Entries.find?_nil]

namespace Ready

/-- A session that is ready has contracts. -/
theorem contractList (h : s.Ready) : ∃ contracts, s.contractList = .ok contracts := by
  obtain ⟨contracts, hcontracts⟩ := Option.isSome_iff_exists.mp h.loaded
  exact ⟨contracts, by rw [Session.contractList, hcontracts]⟩

/-- A view that asks for no more than that contracts are loaded is not refused. -/
theorem contractList_map (h : s.Ready) (view : α) : (s.contractList.map fun _ => view) = .ok view := by
  obtain ⟨contracts, hcontracts⟩ := h.contractList
  rw [hcontracts]
  rfl

/-- A view that can be computed is shown with its decorations. -/
theorem decorated (h : s.Ready) (plain view : α) : s.decorated plain (.ok view) = .ok view := by
  obtain ⟨contracts, hcontracts⟩ := Option.isSome_iff_exists.mp h.loaded
  rw [Session.decorated, hcontracts]
  rfl

/-- Reading a view leaves a session ready. -/
theorem read (h : s.Ready) (view : KeptView) : (s.read view).Ready := by
  have hmemo := h.memo.read view
  obtain ⟨memo, hread⟩ := s.read_eq view
  rw [hread] at hmemo ⊢
  exact ⟨h.loaded, h.undrilled, hmemo⟩

/-! ### The views -/

/-- The paths are those that are known of the selected function. -/
theorem paths (h : s.Ready) : s.paths = .ok s.knownPaths := by
  unfold Session.paths
  split
  · rename_i hselected
    rw [knownPaths, hselected]
    rfl
  · split
    · rfl
    · exact h.contractList_map _

/-- The analysis of the selected function, if there is one. -/
theorem functionAnalysis (h : s.Ready) :
    s.functionAnalysis = .ok (do (← s.analysis?).function? (← s.selection.functionId)) :=
  h.contractList_map _

/-- The map of risks is what the paths and the source make it, whether it was kept or not. -/
theorem riskMap (h : s.Ready) :
    s.riskMap.1 =
      .ok (lineRisks s.knownPaths s.display.index s.display.source.text s.config) := by
  rw [h.memo.riskMap_fst, computedRisks, projected_of_undrilled h.undrilled, h.decorated]

/-- The notes on ranges are those of the selected path. -/
theorem rangeNotes (h : s.Ready) :
    s.rangeNotes.1 =
      .ok (RangeAudit.rangeNotes (activePath? (s.knownPaths.getD []) s.selection.pathIndex)
        s.display.index s.config) := by
  rw [h.memo.rangeNotes_fst, computedNotes, projected_of_undrilled h.undrilled, h.decorated]

/-- The lines with their margins are made of the source, the paths and the analysis. -/
theorem marginLines (h : s.Ready) :
    s.marginLines.1 =
      .ok (RangeAudit.marginLines s.display.source.text s.knownPaths s.display.index
        s.selection.pathIndex ((s.analysis?.getD {}).scopedAccesses s.selection.functionId)
        ((s.analysis?.getD {}).scopedRanges s.selection.functionId) s.config) := by
  rw [h.memo.marginLines_fst, computedLines, projected_of_undrilled h.undrilled, h.decorated]

/-- The summary of risks is that of the paths. -/
theorem riskSummary (h : s.Ready) :
    s.riskSummary = .ok (RangeAudit.riskSummary (s.knownPaths.getD [])) := by
  rw [Session.riskSummary, projected_of_undrilled h.undrilled, h.decorated]

/-- The changes are those at all steps of the selected path. -/
theorem stepDiffs (h : s.Ready) :
    s.stepDiffs = .ok (match s.pathAmong s.knownPaths with
      | none => []
      | some path =>
        let tracker : Tracker := { path := path, digits := s.config.shortDigits }
        tracker.allStepDiffs) := by
  unfold Session.stepDiffs tracker
  cases s.pathAmong s.knownPaths with
  | none => exact h.decorated _ _
  | some path =>
    dsimp only
    rw [projected_of_undrilled h.undrilled]
    exact h.decorated _ _

end Ready

end Session

namespace World

/-- After every run on a fresh session, whatever the engine answers, the session is ready while contracts
    are loaded. -/
theorem ready_run (config : Config) (moves : List Move)
    (h : ((fresh config).run moves).session.contracts.isSome) :
    ((fresh config).run moves).session.Ready := by
  have hundrilled : ((fresh config).run moves).session.planted = [] :=
    session_invariant (fun s => s.planted = []) (fun hchange h => hchange.planted_eq.trans h) rfl
      fun m _ => m.tells_of_true
  exact ⟨h, hundrilled, memoCoherent_run config moves⟩

end World

end RangeAudit
