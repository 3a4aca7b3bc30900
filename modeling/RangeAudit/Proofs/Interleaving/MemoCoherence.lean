import RangeAudit.Proofs.Interleaving.Change

namespace RangeAudit

/-!
# The kept views agree with the data

Three views are kept under the displayed node, the selected function and the selected path.  A key does
not say from which source, analysis or detailed paths a view was computed, so it may only be kept as
long as these stay the same.

* `Agrees` — what is kept is what computing it anew gives; `recalled` may then be left out;
* `Session.MemoCoherent` — the invariant: this holds of all three views, under every key;
* `Session.Change.memoCoherent` — every change of the data forgets the kept views, every other change
  leaves both the data and the kept views alone;
* `World.kept_views_eq_recomputed` — hence no run shows that views are kept.
-/

/-! ### Keeping a view -/

section Recalled

variable {α : Type} {kept : Entries MemoKey α} {compute : MemoKey → Except Fault α}

/-- Every kept view is the one that is computed anew under its key. -/
def Agrees (kept : Entries MemoKey α) (compute : MemoKey → Except Fault α) : Prop :=
  ∀ entry ∈ kept, compute entry.1 = .ok entry.2

/-- Where nothing is kept, all that is kept is right. -/
theorem agrees_nil (compute : MemoKey → Except Fault α) : Agrees [] compute :=
  fun _ hentry => absurd hentry List.not_mem_nil

/-- A kept view and a computed one cannot be told apart. -/
theorem recalled_fst (h : Agrees kept compute) (key : MemoKey) :
    (recalled kept key fun _ => compute key).1 = compute key := by
  unfold recalled
  split
  · rename_i view hfind
    exact (h _ (Entries.mem_of_find? hfind)).symm
  · split
    · rename_i view hview
      exact hview.symm
    · rename_i fault hfault
      exact hfault.symm

/-- A view that is added was just computed. -/
theorem agrees_recalled (h : Agrees kept compute) (key : MemoKey) :
    Agrees (recalled kept key fun _ => compute key).2 compute := by
  unfold recalled
  split
  · exact h
  · split
    · rename_i view hview
      intro entry hentry
      rcases Entries.mem_put hentry with rfl | hold
      · exact hview
      · exact h entry hold
    · exact h

end Recalled

namespace Session

variable {s t : Session}

/-- The session with the selected function and path that a key stands for. -/
def under (s : Session) (key : MemoKey) : Session :=
  { s with selection := { s.selection with functionId := key.functionId, pathIndex := key.pathIndex } }

/-- A session that has kept no view yet. -/
def forgetful (s : Session) : Session :=
  { s with memo := {} }

/-- No kept view differs from computing it anew with the present data, under whatever key it is kept. -/
structure MemoCoherent (s : Session) : Prop where
  risks : Agrees s.memo.risks fun key => (s.under key).computedRisks
  notes : Agrees s.memo.notes fun key => (s.under key).computedNotes
  lines : Agrees s.memo.lines fun key => (s.under key).computedLines

/-! ### The invariant -/

/-- Nothing kept, nothing wrong. -/
theorem memoCoherent_of_memo_empty (h : s.memo = {}) : s.MemoCoherent := by
  refine ⟨?_, ?_, ?_⟩ <;> rw [h] <;> exact agrees_nil _

/-- The data from which views are computed, apart from the selected function and path. -/
structure SameData (s t : Session) : Prop where
  display : t.display = s.display
  details : t.details = s.details
  loaded : t.loaded = s.loaded
  config : t.config = s.config
  planted : t.planted = s.planted

/-- The paths that are known depend on the data and the key only. -/
theorem SameData.knownPaths (h : SameData s t) (key : MemoKey) :
    (t.under key).knownPaths = (s.under key).knownPaths := by
  simp only [Session.knownPaths, under, analysis?, h.details, h.loaded]

/-- So does the map of risks. -/
theorem SameData.computedRisks (h : SameData s t) (key : MemoKey) :
    (t.under key).computedRisks = (s.under key).computedRisks := by
  unfold Session.computedRisks projected
  rw [h.knownPaths]
  simp only [under, h.display, h.config, h.planted]

/-- So do the notes on ranges. -/
theorem SameData.computedNotes (h : SameData s t) (key : MemoKey) :
    (t.under key).computedNotes = (s.under key).computedNotes := by
  unfold Session.computedNotes projected
  rw [h.knownPaths]
  simp only [under, h.display, h.config, h.planted]

/-- So do the lines with their margins. -/
theorem SameData.computedLines (h : SameData s t) (key : MemoKey) :
    (t.under key).computedLines = (s.under key).computedLines := by
  unfold Session.computedLines projected
  rw [h.knownPaths]
  simp only [under, analysis?, h.display, h.loaded, h.config, h.planted]

/-- What leaves the data and the kept views alone keeps them coherent. -/
theorem MemoCoherent.congr (hs : s.MemoCoherent) (h : SameData s t) (hmemo : t.memo = s.memo) :
    t.MemoCoherent := by
  refine ⟨?_, ?_, ?_⟩ <;> rw [hmemo]
  · simp only [h.computedRisks]; exact hs.risks
  · simp only [h.computedNotes]; exact hs.notes
  · simp only [h.computedLines]; exact hs.lines

/-- Reading a view keeps at most that view, which was just computed. -/
theorem MemoCoherent.read (h : s.MemoCoherent) (view : KeptView) : (s.read view).MemoCoherent := by
  -- A view is added under the key of the present selection, under which the session is what it is.
  cases view with
  | risks =>
    simp only [Session.read, riskMap]
    split
    · exact h
    · exact ⟨agrees_recalled h.risks (s.memoKey none), h.notes, h.lines⟩
  | notes =>
    simp only [Session.read, rangeNotes]
    split
    · exact h
    · exact ⟨h.risks, agrees_recalled h.notes (s.memoKey s.selection.pathIndex), h.lines⟩
  | lines =>
    simp only [Session.read, marginLines]
    split
    · exact h
    · exact ⟨h.risks, h.notes, agrees_recalled h.lines (s.memoKey s.selection.pathIndex)⟩

/-- **Step lemma.** Every change keeps the kept views coherent. -/
theorem Change.memoCoherent {known : (q : Query) → q.Answer → Prop} (hchange : Change known s t)
    (h : s.MemoCoherent) : t.MemoCoherent := by
  cases hchange with
  | navigate event => exact h.congr ⟨rfl, rfl, rfl, rfl, rfl⟩ rfl
  | spawn aim functionId => exact h.congr ⟨rfl, rfl, rfl, rfl, rfl⟩ rfl
  | present nodeId source => exact memoCoherent_of_memo_empty rfl
  | useAnalysis contract a => exact memoCoherent_of_memo_empty rfl
  | unload => exact memoCoherent_of_memo_empty rfl
  | enter contracts => exact h.congr ⟨rfl, rfl, rfl, rfl, rfl⟩ rfl
  | close f => exact h.congr ⟨rfl, rfl, rfl, rfl, rfl⟩ rfl
  | keepFlowGraph functionId graph => exact h.congr ⟨rfl, rfl, rfl, rfl, rfl⟩ rfl
  | keepDetail functionId paths => exact memoCoherent_of_memo_empty rfl
  | read view => exact h.read view

/-! ### What the views answer -/

/-- With coherent kept views, a view answers what computing it anew gives. -/
theorem MemoCoherent.riskMap_fst (h : s.MemoCoherent) :
    s.riskMap.1 = s.decorated [] s.computedRisks := by
  unfold riskMap decorated
  split
  · rfl
  · exact congrArg (undecorated []) (recalled_fst h.risks (s.memoKey none))

/-- The notes on ranges are what is computed anew, whether they were kept or not. -/
theorem MemoCoherent.rangeNotes_fst (h : s.MemoCoherent) :
    s.rangeNotes.1 = s.decorated [] s.computedNotes := by
  unfold rangeNotes decorated
  split
  · rfl
  · exact congrArg (undecorated []) (recalled_fst h.notes (s.memoKey s.selection.pathIndex))

/-- The lines with their margins are what is computed anew, whether they were kept or not. -/
theorem MemoCoherent.marginLines_fst (h : s.MemoCoherent) :
    s.marginLines.1 = s.decorated (plainLines s.display.source.text) s.computedLines := by
  unfold marginLines decorated
  split
  · rfl
  · exact congrArg (undecorated _) (recalled_fst h.lines (s.memoKey s.selection.pathIndex))

end Session

namespace World

/-- The kept views are coherent after every run, whatever the engine answers. -/
theorem memoCoherent_run (config : Config) (moves : List Move) :
    ((fresh config).run moves).session.MemoCoherent :=
  session_invariant Session.MemoCoherent (fun hchange h => hchange.memoCoherent h)
    (Session.memoCoherent_of_memo_empty rfl) fun m _ => m.tells_of_true

/-- **Memo coherence.** After every run, whatever the engine answers and whatever was read before, no
    kept view differs from computing it anew, and each of the three views answers exactly what it would
    answer if nothing were kept. -/
theorem kept_views_eq_recomputed (config : Config) (moves : List Move) :
    ((fresh config).run moves).session.MemoCoherent ∧
      ((fresh config).run moves).session.riskMap.1 =
        ((fresh config).run moves).session.forgetful.riskMap.1 ∧
      ((fresh config).run moves).session.rangeNotes.1 =
        ((fresh config).run moves).session.forgetful.rangeNotes.1 ∧
      ((fresh config).run moves).session.marginLines.1 =
        ((fresh config).run moves).session.forgetful.marginLines.1 := by
  have h := memoCoherent_run config moves
  have hempty : ((fresh config).run moves).session.forgetful.MemoCoherent :=
    Session.memoCoherent_of_memo_empty rfl
  refine ⟨h, ?_, ?_, ?_⟩
  · rw [h.riskMap_fst, hempty.riskMap_fst]; rfl
  · rw [h.rangeNotes_fst, hempty.rangeNotes_fst]; rfl
  · rw [h.marginLines_fst, hempty.marginLines_fst]; rfl

end World

end RangeAudit
