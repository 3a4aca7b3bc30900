import Mathlib.Logic.Relation
import RangeAudit.Proofs.Interleaving.World

namespace RangeAudit

/-!
# Changes of a session

Whatever happens to a session is a sequence of a few changes, each of which touches a few fields.  An
invariant of the state alone is therefore proved once per change, and need not look into the turns.

* `Session.Change` — the changes; those that take over an answer say that the answer is known;
* `World.changes_step` — a move is a sequence of changes;
* `World.session_invariant` — what every change preserves holds of the session after every run.
-/

variable {known : (q : Query) → q.Answer → Prop}

/-- One change of a session.  Only known answers are taken over. -/
inductive Session.Change (known : (q : Query) → q.Answer → Prop) : Session → Session → Prop
  | navigate (s : Session) (event : NavigationEvent) : Change known s (s.navigate event).1
  | spawn (s : Session) (aim : FetchAim) (functionId : Int) :
      Change known s (s.spawn aim functionId)
  | present (s : Session) (nodeId : Int) (source : MappedSource)
      (h : known (.source nodeId) source) : Change known s (s.present (some nodeId) source)
  | useAnalysis (s : Session) (contract : String) (a : Analysis)
      (h : known (.analysis contract) a) : Change known s (s.useAnalysis contract a)
  | unload (s : Session) : Change known s s.unload
  | enter (s : Session) (contracts : List Contract) (h : known .contracts contracts) :
      Change known s { s with contracts := some contracts }
  | close (s : Session) (f : Fetch) (h : f ∈ s.fetches) : Change known s (s.close f)
  | keepFlowGraph (s : Session) (functionId : Int) (graph : Option Wire.Value)
      (h : known (.flowGraph functionId) graph) :
      Change known s (s.keepFlowGraph functionId graph)
  | keepDetail (s : Session) (functionId : Int) (paths : List PathTrace)
      (h : known (.detail functionId) paths) : Change known s (s.keepDetail functionId paths)
  | read (s : Session) (view : KeptView) : Change known s (s.read view)

/-- A sequence of changes. -/
abbrev Session.Changes (known : (q : Query) → q.Answer → Prop) : Session → Session → Prop :=
  Relation.ReflTransGen (Session.Change known)

namespace Session

/-- What every change preserves, a sequence of changes preserves. -/
theorem Changes.preserve {Inv : Session → Prop}
    (hchange : ∀ {s t : Session}, Change known s t → Inv s → Inv t) {s t : Session}
    (h : Changes known s t) (hs : Inv s) : Inv t := by
  induction h with
  | refl => exact hs
  | tail _ hlast ih => exact hchange hlast ih

/-- No change touches the settings. -/
theorem Change.config_eq {s t : Session} (h : Change known s t) : t.config = s.config := by
  cases h with
  | read view =>
    obtain ⟨_, hread⟩ := s.read_eq view
    rw [hread]
  | _ => rfl

/-- No change plants a fault, or takes one away. -/
theorem Change.planted_eq {s t : Session} (h : Change known s t) : t.planted = s.planted := by
  cases h with
  | read view =>
    obtain ⟨_, hread⟩ := s.read_eq view
    rw [hread]
  | _ => rfl

theorem Changes.config_eq {s t : Session} (h : Changes known s t) : t.config = s.config := by
  induction h with
  | refl => rfl
  | tail _ hlast ih => exact hlast.config_eq.trans ih

theorem Changes.planted_eq {s t : Session} (h : Changes known s t) : t.planted = s.planted := by
  induction h with
  | refl => rfl
  | tail _ hlast ih => exact hlast.planted_eq.trans ih

/-! ### Turns are sequences of changes -/

/-- Making requests only sends out fetches. -/
theorem changes_perform (s : Session) (requests : List Request) :
    Changes known s (s.perform requests).2 := by
  induction requests generalizing s with
  | nil => exact .refl
  | cons request rest ih =>
    cases request with
    -- Requests after a source are made only when the source is there.
    | source nodeId functionId => exact .refl
    | flowGraph functionId => exact .head (.spawn s .flowGraph functionId) (ih _)
    | pathDetail functionId => exact .head (.spawn s .detail functionId) (ih _)

/-- Opening a function changes the selection, and makes requests. -/
theorem changes_openFunction (s : Session) (owner : Option Contract) (functionId : Int) :
    Changes known s (s.openFunction owner functionId).2 :=
  .head (.navigate s (.selectFunction functionId (owner.map Contract.id))) (changes_perform _ _)

/-- Selecting a contract changes the selection, and may make requests. -/
theorem changes_selectContract (s : Session) (contracts : List Contract) (id : Int) :
    Changes known s (s.selectContract contracts id).2 := by
  unfold selectContract
  split
  · exact .refl
  · dsimp only
    split
    · exact .single (.navigate s (.selectContract id))
    · exact .head (.navigate s (.selectContract id)) (changes_perform _ _)

/-- Selecting a function changes nothing as long as its owner's analysis must be fetched. -/
theorem changes_selectFunction (s : Session) (contracts : List Contract) (functionId : Int) :
    Changes known s (s.selectFunction contracts functionId).2 := by
  unfold selectFunction
  split
  · exact changes_openFunction s none functionId
  · split
    · exact .refl
    · exact changes_openFunction s _ functionId

/-- The first turn of a command takes over no answer. -/
theorem changes_begin (s : Session) (command : Command) :
    Changes known s (s.begin command).2 := by
  cases command with
  | load => exact .refl
  | dispatch event =>
    unfold begin
    dsimp only
    split
    · exact .refl
    · split
      · exact changes_selectContract s _ _
      · exact changes_selectFunction s _ _
      · exact changes_selectFunction s _ _
      · exact .single (.navigate s event)

/-- The next turn of a waiting call takes over the answer that it waited for. -/
theorem changes_resume (s : Session) (call : Waiting) (answer : Except Fault call.query.Answer)
    (h : ∀ v, answer = .ok v → known call.query v) :
    Changes known s (s.resume call answer).2 := by
  cases answer with
  | error fault => cases call <;> exact .refl
  | ok v =>
    have hv := h v rfl
    cases call with
    | contracts => exact .head (.unload s) (.single (.enter _ v hv))
    | contractAnalysis c requests =>
      exact .head (.useAnalysis s c.name v hv) (changes_perform _ _)
    | ownerAnalysis owner functionId =>
      exact .head (.useAnalysis s owner.name v hv) (changes_openFunction _ _ _)
    | source nodeId functionId requests =>
      show Changes known s
        ((if s.wants functionId nodeId then s.present (some nodeId) v else s).perform requests).2
      split
      · exact .head (.present s nodeId v hv) (changes_perform _ _)
      · exact changes_perform _ _

/-- A background fetch takes over its answer, if it is out and wanted. -/
theorem changes_settle (s : Session) (f : Fetch) (answer : Except Fault f.query.Answer)
    (h : ∀ v, answer = .ok v → known f.query v) :
    Changes known s (s.settle f answer) := by
  unfold settle
  split
  · rename_i hout
    -- The task has ended, whatever becomes of its answer.
    refine .head (.close s f hout) ?_
    obtain ⟨ticket, aim, functionId⟩ := f
    cases answer with
    | error fault => cases aim <;> exact .refl
    | ok v =>
      have hv := h v rfl
      cases aim with
      | flowGraph =>
        simp only [accept]
        split
        · exact .single (.keepFlowGraph _ functionId v hv)
        · exact .refl
      | detail =>
        simp only [accept]
        split
        · exact .single (.keepDetail _ functionId v hv)
        · exact .refl
  · exact .refl

end Session

namespace World

/-- **Step lemma.** A move changes the session by a sequence of changes, which take over only what the
    move tells. -/
theorem changes_step (w : World) (m : Move) (h : m.Tells known) :
    Session.Changes known w.session (w.step m).session := by
  cases m with
  | issue command => exact Session.changes_begin _ command
  | unload => exact .single (.unload _)
  | navigate event => exact .single (.navigate _ event)
  | reply k oracle =>
    cases hk : w.calls[k]? with
    | none => rw [step_reply_none hk]
    | some call =>
      obtain ⟨_, _, _, hstep⟩ := step_reply_some hk oracle
      rw [hstep]
      exact Session.changes_resume _ call _ (h call.query)
  | deliver fetch oracle => exact Session.changes_settle _ fetch _ (h fetch.query)
  | read view => exact .single (.read _ view)

/-- What every change preserves holds of the session after every run. -/
theorem session_invariant (Inv : Session → Prop)
    (hchange : ∀ {s t : Session}, Session.Change known s t → Inv s → Inv t) {w : World}
    (hw : Inv w.session) {moves : List Move} (hmoves : ∀ m ∈ moves, m.Tells known) :
    Inv (w.run moves).session := by
  refine run_invariant (fun w => Inv w.session) ?_ hw (along_of_forall hmoves w)
  intro w m hs hm
  exact (changes_step w m hm).preserve hchange hs

end World

end RangeAudit
