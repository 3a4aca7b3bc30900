import RangeAudit.Proofs.Interleaving.Provenance
import RangeAudit.Proofs.Interleaving.Turns

namespace RangeAudit

/-!
# The displayed source is that of the selection

Whoever changes the selection requests its source, and a source is displayed only while it is wanted.
So at any time the source of the selection is displayed, or some waiting call has still to fetch it; when
no call waits, it is displayed.

* `Session.Owes` — a waiting call has still to fetch a source that the session wants;
* `Session.served_begin`, `Session.served_resume` — every turn displays the wanted source or owes it;
* `World.SourceInvariant`, `World.sourceInvariant_step` — the invariant of a world, and the step lemma;
* `World.display_eq_source_of_selected` — what is displayed when nothing waits.

A late source of a contract that was left is not wanted any more, for two reasons: another contract is
selected, or a function.  A source that was requested twice is displayed twice, which does no harm, as the
engine is deterministic.
-/

/-! ### The requests of a turn are proper -/

namespace Selection

/-- What is requested for a function is requested in its name. -/
theorem proper_of_mem_functionRequests {hasSummary : Int → Bool} {functionId : Int} {r : Request}
    (h : r ∈ functionRequests hasSummary functionId) : r.Proper := by
  simp only [functionRequests, List.cons_append, List.nil_append, List.mem_cons] at h
  rcases h with rfl | rfl | h
  · exact .inr rfl
  · trivial
  · split at h
    · rw [List.mem_singleton] at h; subst h; trivial
    · simp at h

end Selection

/-- All requests that a call has still to make are proper. -/
def Waiting.Proper (call : Waiting) : Prop :=
  ∀ r ∈ call.requests, r.Proper

namespace Session

variable {s t : Session} {calls : List Waiting}

/-- A call that makes requests goes on with the rest of them. -/
theorem proper_of_mem_perform {requests : List Request} (h : ∀ r ∈ requests, r.Proper)
    {call : Waiting} (hcall : call ∈ (s.perform requests).1.pending) : call.Proper :=
  fun r hr => h r ((pending_perform hcall).2 r hr)

/-- Opening a function makes the requests of this function. -/
theorem proper_of_mem_openFunction {owner : Option Contract} {functionId : Int} {call : Waiting}
    (hcall : call ∈ (s.openFunction owner functionId).1.pending) : call.Proper := by
  rw [openFunction_eq_perform] at hcall
  exact proper_of_mem_perform (fun _ hr => Selection.proper_of_mem_functionRequests hr) hcall

/-- A first turn leaves the requests of what it has selected. -/
theorem proper_of_mem_begin {command : Command} {call : Waiting}
    (hcall : call ∈ (s.begin command).1.pending) : call.Proper := by
  cases command with
  | load =>
    simp only [begin, Turn.pending, List.mem_singleton] at hcall
    subst hcall
    exact fun r hr => absurd hr List.not_mem_nil
  | dispatch event =>
    cases hcontracts : s.contracts with
    | none => simp [begin, hcontracts, Turn.pending] at hcall
    | some contracts =>
      -- A contract is opened with its source as the only request.
      have hsource : ∀ {id : Int}, ∀ r ∈ [Request.source id none], r.Proper := by
        intro id r hr
        rw [List.mem_singleton] at hr
        subst hr
        exact .inl rfl
      -- Split by what the first turn did; the turns that end leave no call behind.
      generalize hturn : s.begin (.dispatch event) = turn at hcall
      cases firstTurn_of_begin hcontracts hturn with
      | steer => simp [Turn.pending] at hcall
      | unknownContract => simp [Turn.pending] at hcall
      | contractFirst id c =>
        simp only [Turn.pending, List.mem_singleton] at hcall
        subst hcall
        exact hsource
      | contractNow id c => exact proper_of_mem_perform hsource hcall
      | analysisFirst functionId owner =>
        simp only [Turn.pending, List.mem_singleton] at hcall
        subst hcall
        exact fun r hr => absurd hr List.not_mem_nil
      | functionNow functionId owner => exact proper_of_mem_openFunction hcall

/-- A later turn leaves requests that were to be made before, or those of the function that it opens. -/
theorem proper_of_mem_resume {w : Waiting} (hw : w.Proper) {answer : Except Fault w.query.Answer}
    {call : Waiting} (hcall : call ∈ (s.resume w answer).1.pending) : call.Proper := by
  cases answer with
  | error fault => cases w <;> simp [resume, Turn.pending] at hcall
  | ok v =>
    cases w with
    | contracts => simp [resume, Turn.pending] at hcall
    | contractAnalysis c requests => exact proper_of_mem_perform hw hcall
    | ownerAnalysis owner functionId => exact proper_of_mem_openFunction hcall
    | source nodeId functionId requests =>
      exact proper_of_mem_perform (fun r hr => hw r (List.mem_cons_of_mem _ hr)) hcall

/-! ### Wanted sources -/

/-- One of the calls has still to fetch a source that the session wants. -/
def Owes (s : Session) (calls : List Waiting) : Prop :=
  ∃ call ∈ calls, ∃ nodeId functionId,
    Request.source nodeId functionId ∈ call.requests ∧ s.wants functionId nodeId = true

/-- The source of the selection is displayed, or owed by one of the calls. -/
def Served (s : Session) (calls : List Waiting) : Prop :=
  s.display.node = s.selection.node ∨ s.Owes calls

/-- The same contract and function are selected, and the same source is displayed. -/
structure SameScene (s t : Session) : Prop where
  contractId : t.selection.contractId = s.selection.contractId
  functionId : t.selection.functionId = s.selection.functionId
  display : t.display = s.display

/-- Whether a source is wanted depends on the selection only. -/
theorem SameScene.wants (h : SameScene s t) (functionId : Option Int) (nodeId : Int) :
    t.wants functionId nodeId = s.wants functionId nodeId := by
  cases functionId <;> simp only [Session.wants, h.functionId, h.contractId]

/-- The node that is to be displayed depends on the selection only. -/
theorem SameScene.node (h : SameScene s t) : t.selection.node = s.selection.node := by
  simp only [Selection.node, h.functionId, h.contractId]

/-- A change behind the scene leaves what is owed. -/
theorem SameScene.owes (h : SameScene s t) (hs : s.Owes calls) : t.Owes calls := by
  obtain ⟨call, hcall, nodeId, functionId, hsource, hwants⟩ := hs
  exact ⟨call, hcall, nodeId, functionId, hsource, by rw [h.wants]; exact hwants⟩

/-- A change behind the scene leaves what was served. -/
theorem SameScene.served (h : SameScene s t) (hs : s.Served calls) : t.Served calls := by
  rcases hs with hs | hs
  · exact .inl (by rw [h.display, h.node]; exact hs)
  · exact .inr (h.owes hs)

/-- What is owed by some calls is owed by more of them. -/
theorem Owes.mono {more : List Waiting} (h : s.Owes calls) (hcalls : ∀ c ∈ calls, c ∈ more) :
    s.Owes more := by
  obtain ⟨call, hcall, hrest⟩ := h
  exact ⟨call, hcalls call hcall, hrest⟩

/-- A wanted source, properly requested, is that of the selection. -/
theorem node_of_wants {nodeId : Int} {functionId : Option Int}
    (hproper : (Request.source nodeId functionId).Proper) (h : s.wants functionId nodeId = true) :
    s.selection.node = some nodeId := by
  rcases hproper with rfl | rfl
  · simp only [wants, Bool.and_eq_true, Option.isNone_iff_eq_none, beq_iff_eq] at h
    simp [Selection.node, h.1, h.2]
  · simp only [wants, beq_iff_eq] at h
    simp [Selection.node, h]

/-- A wanted source that is requested is owed. -/
theorem owes_perform {requests : List Request} {nodeId : Int} {functionId : Option Int}
    (hsource : Request.source nodeId functionId ∈ requests)
    (hwants : s.wants functionId nodeId = true) :
    (s.perform requests).2.Owes (s.perform requests).1.pending := by
  obtain ⟨call, hcall, hrequest⟩ := source_mem_pending_perform s hsource
  refine ⟨call, hcall, nodeId, functionId, hrequest, ?_⟩
  have hscene : SameScene s (s.perform requests).2 := ⟨by simp, by simp, by simp⟩
  rw [hscene.wants]
  exact hwants

/-- Opening a function owes its source. -/
theorem owes_openFunction (s : Session) (owner : Option Contract) (functionId : Int) :
    (s.openFunction owner functionId).2.Owes (s.openFunction owner functionId).1.pending := by
  rw [openFunction_eq_perform]
  have hsource : Request.source functionId (some functionId) ∈
      Selection.functionRequests s.hasSummary functionId := List.mem_cons_self
  exact owes_perform hsource (by simp [wants, Selection.atFunction])

/-- Whoever selects a contract wants its source. -/
theorem wants_of_selectContract (s : Session) (id : Int) :
    (s.navigate (.selectContract id)).1.wants none id = true := by
  simp [wants, navigate, Selection.apply]

/-! ### Turns -/

/-- A first turn leaves the scene as it is, or owes the source of the new selection. -/
theorem served_begin (s : Session) (command : Command) :
    SameScene s (s.begin command).2 ∨ (s.begin command).2.Owes (s.begin command).1.pending := by
  cases command with
  | load => exact .inl ⟨rfl, rfl, rfl⟩
  | dispatch event =>
    cases hcontracts : s.contracts with
    | none =>
      refine .inl ?_
      simp only [begin, hcontracts]
      exact ⟨rfl, rfl, rfl⟩
    | some contracts =>
      -- A turn either keeps the scene, or changes it and still owes the source of the new one.
      generalize hturn : s.begin (.dispatch event) = turn
      cases firstTurn_of_begin hcontracts hturn with
      | steer h =>
        have hids := s.selection.apply_of_not_selects s.hasSummary h
        exact .inl ⟨hids.1, hids.2, rfl⟩
      | unknownContract id => exact .inl ⟨rfl, rfl, rfl⟩
      | contractFirst id c =>
        refine .inr ⟨_, List.mem_singleton_self _, id, none, List.mem_singleton_self _, ?_⟩
        exact wants_of_selectContract s id
      | contractNow id c =>
        exact .inr (owes_perform (List.mem_singleton_self _) (wants_of_selectContract s id))
      | analysisFirst functionId owner => exact .inl ⟨rfl, rfl, rfl⟩
      | functionNow functionId owner => exact .inr (owes_openFunction s owner functionId)

/-- A next turn displays the source of the selection, owes it, or leaves the scene as it is; in the last
    case it still owes what the call owed. -/
theorem served_resume (s : Session) {w : Waiting} (hw : w.Proper) (v : w.query.Answer) :
    (s.resume w (.ok v)).2.Served (s.resume w (.ok v)).1.pending ∨
      (SameScene s (s.resume w (.ok v)).2 ∧
        (s.Owes [w] → (s.resume w (.ok v)).2.Owes (s.resume w (.ok v)).1.pending)) := by
  cases w with
  -- After loading, nothing is selected and nothing is displayed.
  | contracts => exact .inl (.inl rfl)
  | ownerAnalysis owner functionId => exact .inl (.inr (owes_openFunction _ _ _))
  | contractAnalysis c requests =>
    refine .inr ⟨⟨by simp [resume, useAnalysis], by simp [resume, useAnalysis],
      by simp [resume, useAnalysis]⟩, ?_⟩
    rintro ⟨call, hcall, nodeId, functionId, hsource, hwants⟩
    rw [List.mem_singleton] at hcall
    subst hcall
    have hscene : SameScene s (s.useAnalysis c.name v) := ⟨rfl, rfl, rfl⟩
    exact owes_perform hsource (by rw [hscene.wants]; exact hwants)
  | source nodeId functionId requests =>
    by_cases hwants : s.wants functionId nodeId = true
    · -- The source is wanted, so it is that of the selection, and it is displayed now.
      refine .inl (.inl ?_)
      have hnode := node_of_wants (hw _ List.mem_cons_self) hwants
      simp only [resume, hwants, if_true, perform_display, perform_selection]
      exact hnode.symm
    · refine .inr ⟨⟨by simp [resume, hwants], by simp [resume, hwants], by simp [resume, hwants]⟩, ?_⟩
      rintro ⟨call, hcall, otherId, otherFunction, hsource, hother⟩
      rw [List.mem_singleton] at hcall
      subst hcall
      -- What is owed cannot be the source that has just come, as that one is not wanted.
      rcases List.mem_cons.mp hsource with heq | hrest
      · cases heq
        exact absurd hother hwants
      · simp only [resume, hwants]
        exact owes_perform hrest hother

end Session

/-! ### Worlds -/

namespace World

open Session (SameScene)

variable {engine : Oracle}

/-- The source of the selection is displayed or owed by a waiting call, and calls owe proper requests
    only. -/
structure SourceInvariant (w : World) : Prop where
  proper : ∀ call ∈ w.calls, call.Proper
  served : w.session.Served w.calls

/-- What leaves the scene and the waiting calls alone keeps the invariant. -/
theorem SourceInvariant.congr {w : World} (h : w.SourceInvariant) {s : Session}
    (hscene : SameScene w.session s) : SourceInvariant { w with session := s } :=
  ⟨h.proper, hscene.served h.served⟩

/-- Reading a view only keeps it. -/
theorem sameScene_read (s : Session) (view : KeptView) : SameScene s (s.read view) := by
  obtain ⟨memo, hread⟩ := s.read_eq view
  rw [hread]
  exact ⟨rfl, rfl, rfl⟩

/-- A background fetch concerns the data of functions only. -/
theorem sameScene_settle (s : Session) (f : Fetch) (answer : Except Fault f.query.Answer) :
    SameScene s (s.settle f answer) := by
  obtain ⟨_, _, _, _, _, hsettle⟩ := s.settle_eq f answer
  rw [hsettle]
  exact ⟨rfl, rfl, rfl⟩

/-- The first turn of a call owes the source of what it selects. -/
theorem SourceInvariant.issue {w : World} (h : w.SourceInvariant) (command : Command) :
    (w.step (.issue command)).SourceInvariant := by
  refine ⟨?_, ?_⟩
  · intro call hcall
    rcases List.mem_append.mp hcall with hold | hnew
    · exact h.proper call hold
    · exact Session.proper_of_mem_begin hnew
  · rcases Session.served_begin w.session command with hscene | howes
    · rcases hscene.served h.served with hshown | howes
      · exact .inl hshown
      · exact .inr (howes.mono fun c hc => List.mem_append_left _ hc)
    · exact .inr (howes.mono fun c hc => List.mem_append_right _ hc)

/-- A later turn displays the source that is wanted, or goes on owing it. -/
theorem SourceInvariant.reply {w : World} (h : w.SourceInvariant) {k : Nat} {oracle : Oracle}
    (hm : w.Driven engine (.reply k oracle)) : (w.step (.reply k oracle)).SourceInvariant := by
  cases hm.replyStep with
  | unheard hk hsame => rw [hsame]; exact h
  | resumed call v hk hcall hsession hcalls hpending hothers =>
    have hproper : call.Proper := h.proper call hcall
    refine ⟨?_, ?_⟩
    · intro c hc
      rcases hcalls c hc with hold | hnew
      · exact h.proper c hold
      · exact Session.proper_of_mem_resume hproper hnew
    · rw [hsession]
      rcases w.session.served_resume hproper v with hserved | ⟨hscene, howed⟩
      · rcases hserved with hshown | howes
        · exact .inl hshown
        · exact .inr (howes.mono hpending)
      · rcases h.served with hshown | ⟨c, hc, hsource⟩
        · exact hscene.served (.inl hshown)
        · -- The source was owed by this call or by another one, which is still there.
          rcases hothers c hc with rfl | hkept
          · exact .inr ((howed ⟨c, List.mem_singleton_self c, hsource⟩).mono hpending)
          · exact .inr (hscene.owes ⟨c, hkept, hsource⟩)

/-- **Step lemma.** Every move of a driven session keeps the invariant. -/
theorem sourceInvariant_step (w : World) (m : Move) (h : w.SourceInvariant)
    (hm : Driven engine w m) : (w.step m).SourceInvariant := by
  cases m with
  | issue command => exact h.issue command
  | unload => exact ⟨h.proper, .inl rfl⟩
  | navigate event => cases hm.2.2
  | reply k oracle => exact h.reply hm
  | deliver fetch oracle => exact h.congr (sameScene_settle _ fetch _)
  | read view => exact h.congr (sameScene_read _ view)

/-- Nothing is selected, and nothing is displayed. -/
theorem sourceInvariant_fresh (config : Config) : (fresh config).SourceInvariant :=
  ⟨fun _ hcall => absurd hcall List.not_mem_nil, .inl rfl⟩

/-- **Source freshness.** Whenever no call waits, the displayed node is the selected function, or the
    selected contract if no function is selected; the displayed source is the engine's source of that
    node, and empty if nothing is selected; and the index is built from the places of that source. -/
theorem display_eq_source_of_selected {engine : Oracle} (config : Config) {moves : List Move}
    (hmoves : (fresh config).Along (Driven engine) moves)
    (hidle : ((fresh config).run moves).calls = []) :
    let s := ((fresh config).run moves).session
    s.display.node = s.selection.functionId.or s.selection.contractId ∧
      engine.SourceOf (s.selection.functionId.or s.selection.contractId) s.display.source ∧
      s.display.index = NodeIndex.ofPlaces s.display.source.places := by
  intro s
  have hinv := run_invariant SourceInvariant sourceInvariant_step (sourceInvariant_fresh config) hmoves
  have hprovenance : s.Provenance engine :=
    provenance_run (provenance_fresh config) (hmoves.forall_mem fun _ _ hm => hm.1)
  have hnode : s.display.node = s.selection.functionId.or s.selection.contractId := by
    rcases hinv.served with hshown | ⟨call, hcall, _⟩
    · exact hshown
    · rw [hidle] at hcall
      exact absurd hcall List.not_mem_nil
  refine ⟨hnode, ?_, hprovenance.index⟩
  rw [← hnode]
  exact hprovenance.source

/-- The source of a contract comes late: a function was selected meanwhile, and its source is there. -/
def lateContractSource : List Move :=
  let engine := Archive.ofVaultAndToken.oracle
  [.issue .load, .reply 0 engine,
    .issue (.dispatch (.selectContract 1)), .reply 0 engine,
    .issue (.dispatch (.selectFunction 10 none)), .reply 1 engine, .reply 0 engine]

/-- The source of the contract comes after a function was selected, and is not displayed. -/
theorem display_eq_source_of_selected_of_lateContractSource :
    (fresh {}).Along (Driven Archive.ofVaultAndToken.oracle) lateContractSource ∧
      ((fresh {}).run lateContractSource).calls = [] ∧
      let s := ((fresh {}).run lateContractSource).session
      s.display.node = s.selection.functionId.or s.selection.contractId ∧
        Archive.ofVaultAndToken.oracle.SourceOf
          (s.selection.functionId.or s.selection.contractId) s.display.source ∧
        s.display.index = NodeIndex.ofPlaces s.display.source.places := by
  have hmoves : (fresh {}).Along (Driven Archive.ofVaultAndToken.oracle) lateContractSource := by
    refine ⟨?_, ?_, ?_, ?_, ?_, ?_, ?_, trivial⟩ <;>
      exact ⟨by simp [Move.HonestTo, Move.Tells], by decide +kernel, rfl⟩
  have hidle : ((fresh {}).run lateContractSource).calls = [] := by decide +kernel
  exact ⟨hmoves, hidle, display_eq_source_of_selected {} hmoves hidle⟩

example : ((fresh {}).run lateContractSource).session.display.source.text = "function deposit" := by
  decide +kernel

end World

end RangeAudit
