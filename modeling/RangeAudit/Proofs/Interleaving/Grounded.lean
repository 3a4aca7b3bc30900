import RangeAudit.Proofs.Interleaving.Turns

namespace RangeAudit

/-!
# Sessions that keep their contracts

A session that is neither loaded anew nor unloaded goes on with the contracts that it has, and so do the
calls on it: a call that waits for the analysis of an owner waits for that of the owner among these
contracts.

* `Waiting.Sound` — what is known of the calls that can wait;
* `World.Steady` — moves of a driven session that keep the contracts;
* `World.Grounded`, `World.Grounded.step` — the invariant of a world, and the step lemma.
-/

/-- A call that may wait while the contracts stay: the selection of a function waits for the analysis of
    the contract that owns it. -/
def Waiting.Sound (contracts : List Contract) : Waiting → Prop
  | .contracts => False
  | .ownerAnalysis owner functionId => Contract.ownerOf? contracts functionId = some owner
  | _ => True

namespace Session

variable {s : Session} {contracts : List Contract}

/-- A call that waits for a source has no owner to be sound about. -/
theorem sound_of_mem_perform {requests : List Request} {call : Waiting}
    (h : call ∈ (s.perform requests).1.pending) : call.Sound contracts := by
  obtain ⟨⟨nodeId, functionId, rest, rfl⟩, -⟩ := pending_perform h
  trivial

/-- A first turn leaves the contracts alone. -/
theorem FirstTurn.contracts_eq {event : NavigationEvent} {turn : Turn × Session}
    (h : FirstTurn s contracts event turn) : turn.2.contracts = s.contracts := by
  cases h with
  | steer => rfl
  | unknownContract => rfl
  | contractFirst => rfl
  | contractNow id c => rw [perform_contracts]; rfl
  | analysisFirst => rfl
  | functionNow functionId owner => rw [openFunction_contracts]

/-- A first turn waits for the analysis of a contract that is listed, and of a function's owner only if it lists
    the function. -/
theorem FirstTurn.sound {event : NavigationEvent} {turn : Turn × Session}
    (h : FirstTurn s contracts event turn) : ∀ call ∈ turn.1.pending, call.Sound contracts := by
  intro call hcall
  cases h with
  | steer => simp [Turn.pending] at hcall
  | unknownContract => simp [Turn.pending] at hcall
  | contractFirst id c =>
    simp only [Turn.pending, List.mem_singleton] at hcall
    subst hcall
    trivial
  | contractNow id c => exact sound_of_mem_perform hcall
  | analysisFirst functionId owner hevent hfind =>
    simp only [Turn.pending, List.mem_singleton] at hcall
    subst hcall
    exact hfind
  | functionNow functionId owner => exact sound_of_mem_perform hcall

/-- A later turn of a sound call leaves the contracts alone, since it does not load. -/
theorem resume_contracts {w : Waiting} (hw : w.Sound contracts) (v : w.query.Answer) :
    (s.resume w (.ok v)).2.contracts = s.contracts := by
  cases w with
  | contracts => exact hw.elim
  | contractAnalysis c requests => simp only [resume, perform_contracts]; rfl
  | ownerAnalysis owner functionId => simp only [resume, openFunction_contracts]; rfl
  | source nodeId functionId requests =>
    simp only [resume, perform_contracts]
    split <;> rfl

/-- A later turn waits for sources only. -/
theorem sound_of_mem_resume {w : Waiting} (hw : w.Sound contracts) {v : w.query.Answer}
    {call : Waiting} (h : call ∈ (s.resume w (.ok v)).1.pending) : call.Sound contracts := by
  cases w with
  | contracts => exact hw.elim
  | contractAnalysis c requests => exact sound_of_mem_perform h
  | ownerAnalysis owner functionId => exact sound_of_mem_perform h
  | source nodeId functionId requests => exact sound_of_mem_perform h

end Session

namespace World

variable {engine : Oracle} {contracts : List Contract} {w : World} {m : Move}

/-- A move of a driven session that keeps its contracts. -/
def Steady (engine : Oracle) (w : World) (m : Move) : Prop :=
  w.Driven engine m ∧ m.isReload = false

/-- The session has the contracts, and no waiting call will change them. -/
structure Grounded (contracts : List Contract) (w : World) : Prop where
  held : w.session.contracts = some contracts
  calls : ∀ call ∈ w.calls, call.Sound contracts

/-- **Step lemma.** Every move of a steady session keeps the contracts, and what is known of the calls. -/
theorem Grounded.step (h : w.Grounded contracts) (hm : w.Steady engine m) :
    (w.step m).Grounded contracts := by
  cases m with
  | issue command =>
    cases command with
    | load => cases hm.2
    | dispatch event =>
      -- The first turn either ends or waits for calls that are sound for the listed contracts.
      have hturn : Session.FirstTurn w.session contracts event (w.session.begin (.dispatch event)) :=
        Session.firstTurn_of_begin h.held rfl
      refine ⟨?_, ?_⟩
      · rw [← h.held]
        exact hturn.contracts_eq
      · intro call hcall
        rcases List.mem_append.mp hcall with hold | hnew
        · exact h.calls call hold
        · exact hturn.sound call hnew
  | unload => cases hm.2
  | navigate event => cases hm.1.2.2
  | reply k oracle =>
    cases hm.1.replyStep with
    | unheard hk hsame => rw [hsame]; exact h
    | resumed call v hk hcall hsession hcalls =>
      -- A sound call resumed keeps the list, and what it waits for next is sound again.
      have hsound : call.Sound contracts := h.calls call hcall
      refine ⟨?_, ?_⟩
      · rw [hsession, Session.resume_contracts hsound]
        exact h.held
      · intro c hc
        rcases hcalls c hc with hold | hnew
        · exact h.calls c hold
        · exact Session.sound_of_mem_resume hsound hnew
  | deliver fetch oracle => exact ⟨(Session.settle_contracts ..).trans h.held, h.calls⟩
  | read view => exact ⟨(Session.read_contracts ..).trans h.held, h.calls⟩

/-- A session that has just loaded contracts has them, and no call waits. -/
theorem grounded_loaded (config : Config) (contracts : List Contract) :
    (loaded config contracts).Grounded contracts :=
  ⟨rfl, fun _ hcall => absurd hcall List.not_mem_nil⟩

end World

end RangeAudit
