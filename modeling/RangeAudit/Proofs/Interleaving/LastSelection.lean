import Mathlib.Data.List.Induction
import RangeAudit.Proofs.Interleaving.Grounded

namespace RangeAudit

/-!
# Which of several overlapping selections prevails

A contract is selected as soon as this is asked for, a function only when the analysis of its owner is
there.  So the selection of a function that waits for its owner can take effect after selections that were
issued later, and then it prevails over them.

* `Place`, `NavigationEvent.goal?` — where a selection is, and where an event is to take it;
* `World.arrival?` — where a move takes the selection;
* `World.placeStep` — all ways in which a move can go, as far as the place of the selection is concerned;
* `World.Overtaken` — the selection of a function arrived last, and it is not where the last one issued was
  to lead;
* `World.place_eq_goal_iff_not_overtaken` — when no call waits, the selection is where the last one issued
  was to lead if and only if this has not happened.

Nothing else can happen to the selection that was issued last: it arrives at once or waits for an analysis,
and what waits arrives before the calls are over.  `World.not_always_place_eq_goal` is a run in which it is
overtaken.
-/

/-- Where a selection is: in which contract, and at which function. -/
structure Place where
  contractId : Option Int
  functionId : Option Int
  deriving DecidableEq, Inhabited

/-- Where a selection is. -/
def Selection.place (s : Selection) : Place :=
  ⟨s.contractId, s.functionId⟩

/-- A function of a contract. -/
def Contract.placeOf (owner : Contract) (functionId : Int) : Place :=
  ⟨some owner.id, some functionId⟩

/-- Where an event is to take the selection, if it selects a contract or a function that is there. -/
def NavigationEvent.goal? (contracts : List Contract) : NavigationEvent → Option Place
  | selectContract id => (Contract.withId? contracts id).map fun _ => ⟨some id, none⟩
  | selectFunction id _ | navigateToFunction id _ =>
    (Contract.ownerOf? contracts id).map fun owner => owner.placeOf id
  | _ => none

namespace Move

/-- Where a move is to take the selection, if it issues a selection. -/
def goal? (contracts : List Contract) : Move → Option Place
  | .issue (.dispatch event) => event.goal? contracts
  | _ => none

/-- If the move issues a selection, then of a contract or a function that is there. -/
def Known (contracts : List Contract) : Move → Prop
  | .issue (.dispatch event) => event.selects = true → (event.goal? contracts).isSome
  | _ => True

end Move

/-- Where the selection that was issued last is to lead. -/
def lastGoal? (contracts : List Contract) (moves : List Move) : Option Place :=
  (moves.filterMap (Move.goal? contracts)).getLast?

/-- Is a function to be selected whose owner's analysis must be fetched before? -/
def Session.awaitsOwner (s : Session) (contracts : List Contract) (event : NavigationEvent) : Bool :=
  event.function?.any fun id => (Contract.ownerOf? contracts id).any s.needsAnalysis

namespace World

/-- Where a move takes the selection: an event that need not wait takes it to its goal, and the analysis of
    an owner takes it to the function that waited for it. -/
def arrival? (contracts : List Contract) (w : World) : Move → Option Place
  | .issue (.dispatch event) =>
    if w.session.awaitsOwner contracts event then none else event.goal? contracts
  | .reply k _ =>
    match w.calls[k]? with
    | some (.ownerAnalysis owner functionId) => some (owner.placeOf functionId)
    | _ => none
  | _ => none

/-- Does the answer to a waiting call take the selection elsewhere than to the goal? -/
def overtakes (contracts : List Contract) (goal : Place) (w : World) : Move → Bool
  | .reply k oracle => (w.arrival? contracts (.reply k oracle)).any fun place => place != goal
  | _ => false

/-- The selection of a function that waited for its owner's analysis arrived last, and not at the goal. -/
def Overtaken (contracts : List Contract) (goal : Place) (w : World) (moves : List Move) : Prop :=
  w.Lasts (fun w m => w.overtakes contracts goal m = true) (fun w m => w.arrival? contracts m = none)
    moves

end World

/-! ### Goals -/

variable {contracts : List Contract}

theorem lastGoal?_nil (contracts : List Contract) : lastGoal? contracts [] = none := rfl

/-- The last goal is that of the last move, if it has one, else it is that of the moves before it. -/
theorem lastGoal?_concat (contracts : List Contract) (moves : List Move) (m : Move) :
    lastGoal? contracts (moves ++ [m]) = (m.goal? contracts).or (lastGoal? contracts moves) := by
  unfold lastGoal?
  rw [List.filterMap_append]
  cases hgoal : m.goal? contracts with
  | none => simp [hgoal]
  | some goal => simp [hgoal]

/-- The selection of a function wants its place in the contract that lists it. -/
theorem NavigationEvent.goal?_of_function {event : NavigationEvent} {functionId : Int}
    (h : event.function? = some functionId) : event.goal? contracts =
      (Contract.ownerOf? contracts functionId).map fun owner => owner.placeOf functionId := by
  cases event with
  | selectFunction id contract => cases h; rfl
  | navigateToFunction id contract => cases h; rfl
  | _ => cases h

/-- An event that selects nothing wants no other place. -/
theorem NavigationEvent.goal?_of_not_selects {event : NavigationEvent} (h : event.selects = false) :
    event.goal? contracts = none := by
  cases event <;> first | rfl | cases h

/-! ### Places after a turn -/

namespace Session

variable {s : Session} {event : NavigationEvent}

/-- An event that selects nothing leaves the place. -/
theorem place_navigate (h : event.selects = false) :
    (s.navigate event).1.selection.place = s.selection.place := by
  have hids := s.selection.apply_of_not_selects s.hasSummary h
  show (s.selection.apply s.hasSummary event).1.place = _
  rw [Selection.place, Selection.place, hids.1, hids.2]

/-- A function that is opened is in its place. -/
theorem place_openFunction (s : Session) (owner : Contract) (functionId : Int) :
    (s.openFunction (some owner) functionId).2.selection.place = owner.placeOf functionId := by
  rw [openFunction_eq_perform, perform_selection]
  rfl

end Session

namespace World

variable {engine : Oracle} {w : World} {m : Move} {goal : Place}

/-! ### What a move does to the place of the selection -/

/-- A goal is overtaken by the last move, or was overtaken before and is not reached by it. -/
theorem overtaken_concat (w : World) (moves : List Move) (m : Move) :
    w.Overtaken contracts goal (moves ++ [m]) ↔
      (w.run moves).overtakes contracts goal m = true ∨
        (w.Overtaken contracts goal moves ∧ (w.run moves).arrival? contracts m = none) :=
  lasts_concat (fun w m => w.overtakes contracts goal m = true)
    (fun w m => w.arrival? contracts m = none) w moves m

/-- What does not arrive does not overtake. -/
theorem not_overtakes_of_arrival?_eq_none (h : w.arrival? contracts m = none) :
    w.overtakes contracts goal m = false := by
  cases m with
  | reply k oracle => simp only [overtakes, h, Option.any_none]
  | _ => rfl

/-- A selection of a function waits, which is to lead to the goal. -/
def AwaitsGoal (w : World) (goal : Place) : Prop :=
  ∃ owner functionId, .ownerAnalysis owner functionId ∈ w.calls ∧ owner.placeOf functionId = goal

/-- How a move can go, as far as the place of the selection is concerned. -/
inductive PlaceStep (contracts : List Contract) (w : World) (m : Move) : Prop
  /-- Nothing is issued and nothing arrives, and what waits goes on waiting. -/
  | stays (hgoal : m.goal? contracts = none) (harrival : w.arrival? contracts m = none)
      (hplace : (w.step m).session.selection.place = w.session.selection.place)
      (hcalls : ∀ goal, w.AwaitsGoal goal → (w.step m).AwaitsGoal goal)
  /-- The selection of a function is issued, and waits. -/
  | waits (goal : Place) (hgoal : m.goal? contracts = some goal) (hawaits : (w.step m).AwaitsGoal goal)
  /-- A selection is issued, and arrives at once. -/
  | goes (goal : Place) (hgoal : m.goal? contracts = some goal)
      (harrival : w.arrival? contracts m = some goal)
      (hovertakes : ∀ other, w.overtakes contracts other m = false)
      (hplace : (w.step m).session.selection.place = goal)
  /-- A selection that waited arrives. -/
  | arrives (place : Place) (hgoal : m.goal? contracts = none)
      (harrival : w.arrival? contracts m = some place)
      (hovertakes : ∀ goal, w.overtakes contracts goal m = (place != goal))
      (hplace : (w.step m).session.selection.place = place)

/-- **Step lemma.** The first turn of a call goes to its goal, unless it has to wait for the analysis of an
    owner. -/
theorem placeStep_dispatch (h : w.Grounded contracts) (event : NavigationEvent)
    (hknown : (Move.issue (.dispatch event)).Known contracts) :
    PlaceStep contracts w (.issue (.dispatch event)) := by
  generalize hturn : w.session.begin (.dispatch event) = turn
  have hsession : (w.step (.issue (.dispatch event))).session = turn.2 := by rw [← hturn]; rfl
  have hcalls : (w.step (.issue (.dispatch event))).calls = w.calls ++ turn.1.pending := by
    rw [← hturn]; rfl
  -- A contract is selected in its first turn, whether its analysis is there or not.
  have hcontract : ∀ (id : Int) (c : Contract), event = .selectContract id →
      Contract.withId? contracts id = some c →
      turn.2.selection.place = ⟨some id, none⟩ → PlaceStep contracts w (.issue (.dispatch event)) := by
    rintro id c rfl hfind hplace
    have hgoal : (NavigationEvent.selectContract id).goal? contracts = some ⟨some id, none⟩ := by
      simp only [NavigationEvent.goal?, hfind, Option.map_some]
    refine .goes ⟨some id, none⟩ hgoal ?_ (fun _ => rfl) (by rw [hsession]; exact hplace)
    simp only [arrival?, Session.awaitsOwner, NavigationEvent.function?, Option.any_none]
    exact hgoal
  cases Session.firstTurn_of_begin h.held hturn with
  | steer hevent =>
    have hgoal : event.goal? contracts = none := NavigationEvent.goal?_of_not_selects hevent
    refine .stays hgoal ?_ ?_ ?_
    · simp only [arrival?, hgoal, ite_self]
    · rw [hsession]
      exact Session.place_navigate hevent
    · rintro goal ⟨owner, functionId, hcall, hplace⟩
      exact ⟨owner, functionId, by rw [hcalls]; exact List.mem_append_left _ hcall, hplace⟩
  | unknownContract id hevent hfind =>
    subst hevent
    have hsome := hknown rfl
    simp [NavigationEvent.goal?, hfind] at hsome
  | contractFirst id c hevent hfind => exact hcontract id c hevent hfind rfl
  | contractNow id c hevent hfind =>
    refine hcontract id c hevent hfind ?_
    rw [Session.perform_selection]
    rfl
  | analysisFirst functionId owner hevent hfind =>
    refine .waits (owner.placeOf functionId) ?_ ⟨owner, functionId, ?_, rfl⟩
    · rw [Move.goal?, NavigationEvent.goal?_of_function hevent, hfind, Option.map_some]
    · rw [hcalls]
      exact List.mem_append_right _ (List.mem_singleton_self _)
  | functionNow functionId owner hevent hfind hneeds =>
    have hgoal : event.goal? contracts = owner.map fun c => c.placeOf functionId := by
      rw [NavigationEvent.goal?_of_function hevent, hfind]
    cases owner with
    | none =>
      have hsome := hknown (by cases event <;> first | rfl | cases hevent)
      rw [hgoal] at hsome
      cases hsome
    | some c =>
      refine .goes (c.placeOf functionId) hgoal ?_ (fun _ => rfl) ?_
      · simp only [arrival?, Session.awaitsOwner, hevent, Option.any_some, hfind, hneeds c rfl]
        exact hgoal
      · rw [hsession]
        exact Session.place_openFunction _ c functionId

/-- **Step lemma.** A later turn goes to the goal of a call that has waited, whatever was selected meanwhile. -/
theorem placeStep_reply {k : Nat} {oracle : Oracle} (h : w.Grounded contracts)
    (hm : w.Driven engine (.reply k oracle)) : PlaceStep contracts w (.reply k oracle) := by
  cases hm.replyStep with
  | unheard hk hsame =>
    exact .stays rfl (by simp [arrival?, hk]) (by rw [hsame]) (fun _ hawaits => by rw [hsame]; exact hawaits)
  | resumed call v hk hcall hsession hcalls hpending hothers =>
    -- Only a call that waits for the analysis of an owner has still to select something.
    have hstays : (∀ owner functionId, call ≠ .ownerAnalysis owner functionId) →
        (w.session.resume call (.ok v)).2.selection.place = w.session.selection.place →
        PlaceStep contracts w (.reply k oracle) := by
      intro hcall hplace
      refine .stays rfl ?_ (by rw [hsession]; exact hplace) ?_
      · simp only [arrival?, hk]
        cases call with
        | ownerAnalysis owner functionId => exact absurd rfl (hcall owner functionId)
        | _ => rfl
      · rintro goal ⟨owner, functionId, hwaits, hgoal⟩
        rcases hothers _ hwaits with heq | hkept
        · exact absurd heq.symm (hcall owner functionId)
        · exact ⟨owner, functionId, hkept, hgoal⟩
    cases call with
    | contracts => exact (h.calls _ hcall).elim
    | contractAnalysis c requests =>
      refine hstays (fun _ _ heq => by cases heq) ?_
      simp only [Session.resume, Session.perform_selection]
      rfl
    | source nodeId functionId requests =>
      refine hstays (fun _ _ heq => by cases heq) ?_
      simp only [Session.resume, Session.perform_selection]
      split <;> rfl
    | ownerAnalysis owner functionId =>
      have harrival : w.arrival? contracts (.reply k oracle) = some (owner.placeOf functionId) := by
        simp only [arrival?, hk]
      refine .arrives (owner.placeOf functionId) rfl harrival ?_ ?_
      · intro goal
        simp only [overtakes, harrival, Option.any_some]
      · rw [hsession]
        exact Session.place_openFunction _ owner functionId

/-- **Inversion.** A move of a steady session goes in one of four ways. -/
theorem placeStep (h : w.Grounded contracts) (hm : w.Steady engine m) (hknown : m.Known contracts) :
    PlaceStep contracts w m := by
  cases m with
  | issue command =>
    cases command with
    | load => cases hm.2
    | dispatch event => exact placeStep_dispatch h event hknown
  | unload => cases hm.2
  | navigate event => cases hm.1.2.2
  | reply k oracle => exact placeStep_reply h hm.1
  | deliver fetch oracle => exact .stays rfl rfl (by simp [step]) (fun _ hawaits => hawaits)
  | read view => exact .stays rfl rfl (by simp [step]) (fun _ hawaits => hawaits)

/-! ### Runs -/

/-- The selection that was issued last waits, or it is known whether it was overtaken. -/
def GoalInvariant (goal : Place) (overtaken : Prop) (w : World) : Prop :=
  w.AwaitsGoal goal ∨ (w.session.selection.place = goal ↔ ¬ overtaken)

/-- **Run lemma.** After every run of a steady session in which known contracts and functions are selected,
    the selection issued last waits, or it has prevailed unless it was overtaken. -/
theorem goalInvariant_run (h : w.Grounded contracts) {moves : List Move}
    (hmoves : w.Along (Steady engine) moves) (hknown : ∀ m ∈ moves, m.Known contracts)
    (hgoal : lastGoal? contracts moves = some goal) :
    (w.run moves).Grounded contracts ∧
      GoalInvariant goal (w.Overtaken contracts goal moves) (w.run moves) := by
  have hgrounded : ∀ {moves : List Move}, w.Along (Steady engine) moves →
      (w.run moves).Grounded contracts :=
    fun hmoves => run_invariant (Grounded contracts) (fun _ _ hw hm => hw.step hm) h hmoves
  refine ⟨hgrounded hmoves, ?_⟩
  -- The induction is on the end of the run: which selection was issued last depends on the whole run so far.
  induction moves using List.reverseRecOn with
  | nil => simp [lastGoal?_nil] at hgoal
  | append_singleton moves m ih =>
    rw [along_append] at hmoves
    obtain ⟨hmoves, hm, -⟩ := hmoves
    have hknown' : ∀ m ∈ moves, m.Known contracts := fun m hm => hknown m (List.mem_append_left _ hm)
    rw [lastGoal?_concat] at hgoal
    rw [GoalInvariant, overtaken_concat, run_append, run_cons, run_nil]
    cases placeStep (hgrounded hmoves) hm (hknown m (by simp)) with
    | stays hnone harrival hplace hcalls =>
      rw [hnone, Option.none_or] at hgoal
      rcases ih hmoves hknown' hgoal with hawaits | hplace'
      · exact .inl (hcalls goal hawaits)
      · refine .inr ?_
        rw [hplace, hplace', not_overtakes_of_arrival?_eq_none harrival, harrival]
        simp
    | waits other hother hawaits =>
      rw [hother, Option.some_or, Option.some.injEq] at hgoal
      exact .inl (hgoal ▸ hawaits)
    | goes other hother harrival hovertakes hplace =>
      rw [hother, Option.some_or, Option.some.injEq] at hgoal
      refine .inr ?_
      rw [hplace, hovertakes, harrival]
      simp [hgoal]
    | arrives place hnone harrival hovertakes hplace =>
      -- Whatever arrives now prevails, and it overtakes unless it leads to the goal as well.
      refine .inr ?_
      rw [hplace, hovertakes, harrival]
      simp

/-- **Overlapping selections.** Take a session that has contracts, and any run of calls on it that select
    contracts and functions which are there, at an engine whose calls do not fail.  When no call waits, the
    selection is where the last one issued was to lead if and only if no selection of a function that waited
    for its owner's analysis arrived after all others, elsewhere. -/
theorem place_eq_goal_iff_not_overtaken {engine : Oracle} {contracts : List Contract} {w : World}
    {goal : Place} (h : w.Grounded contracts) {moves : List Move}
    (hmoves : w.Along (Steady engine) moves) (hknown : ∀ m ∈ moves, m.Known contracts)
    (hgoal : lastGoal? contracts moves = some goal) (hidle : (w.run moves).calls = []) :
    (w.run moves).session.selection.place = goal ↔ ¬ w.Overtaken contracts goal moves := by
  rcases (goalInvariant_run h hmoves hknown hgoal).2 with ⟨_, _, hcall, _⟩ | hplace
  · rw [hidle] at hcall
    exact absurd hcall List.not_mem_nil
  · exact hplace

/-- A function is selected, and then another contract; the analysis of the function's owner comes when the
    contract is selected already. -/
def slowFunction : List Move :=
  let engine := Archive.ofVaultAndToken.oracle
  [.issue (.dispatch (.selectFunction 10 none)), .issue (.dispatch (.selectContract 2)), .reply 0 engine,
    .reply 1 engine, .reply 0 engine, .reply 0 engine,
    .deliver ⟨0, .flowGraph, 10⟩ engine, .deliver ⟨1, .detail, 10⟩ engine]

/-- Nothing fails in this run. -/
theorem steady_slowFunction :
    (loaded {} Archive.ofVaultAndToken.contracts).Along (Steady Archive.ofVaultAndToken.oracle)
      slowFunction := by
  refine ⟨?_, ?_, ?_, ?_, ?_, ?_, ?_, ?_, trivial⟩ <;>
    exact ⟨⟨by simp [Move.HonestTo, Move.Tells], by decide +kernel, rfl⟩, rfl⟩

/-- All that is selected is listed. -/
theorem known_slowFunction : ∀ m ∈ slowFunction, m.Known Archive.ofVaultAndToken.contracts := by
  simp only [slowFunction, List.forall_mem_cons, Move.Known]
  refine ⟨fun _ => by decide +kernel, fun _ => by decide +kernel, trivial, trivial, trivial, trivial,
    trivial, trivial, ?_⟩
  exact fun _ hm => absurd hm List.not_mem_nil

/-- The contract is the last goal, but the function arrives later. -/
theorem place_eq_goal_iff_not_overtaken_of_slowFunction :
    (loaded {} Archive.ofVaultAndToken.contracts).Grounded Archive.ofVaultAndToken.contracts ∧
      (loaded {} Archive.ofVaultAndToken.contracts).Along (Steady Archive.ofVaultAndToken.oracle)
        slowFunction ∧
      (∀ m ∈ slowFunction, m.Known Archive.ofVaultAndToken.contracts) ∧
      lastGoal? Archive.ofVaultAndToken.contracts slowFunction = some ⟨some 2, none⟩ ∧
      ((loaded {} Archive.ofVaultAndToken.contracts).run slowFunction).calls = [] ∧
      (((loaded {} Archive.ofVaultAndToken.contracts).run slowFunction).session.selection.place =
          ⟨some 2, none⟩ ↔
        ¬ (loaded {} Archive.ofVaultAndToken.contracts).Overtaken Archive.ofVaultAndToken.contracts
          ⟨some 2, none⟩ slowFunction) := by
  have hgrounded := grounded_loaded {} Archive.ofVaultAndToken.contracts
  have hgoal : lastGoal? Archive.ofVaultAndToken.contracts slowFunction = some ⟨some 2, none⟩ := by
    decide +kernel
  have hidle : ((loaded {} Archive.ofVaultAndToken.contracts).run slowFunction).calls = [] := by
    decide +kernel
  exact ⟨hgrounded, steady_slowFunction, known_slowFunction, hgoal, hidle,
    place_eq_goal_iff_not_overtaken hgrounded steady_slowFunction known_slowFunction hgoal hidle⟩

/-- **The selection that was issued last need not prevail**, even if names and ids tell contracts and
    functions apart, and neither a call nor a background fetch is out. -/
theorem not_always_place_eq_goal :
    ¬ ∀ (engine : Oracle) (contracts : List Contract) (config : Config) (moves : List Move) (goal : Place),
      (contracts.map Contract.name).Nodup →
      (contracts.flatMap fun c => c.functions.map FunctionInfo.id).Nodup →
      (loaded config contracts).Along (Steady engine) moves →
      (∀ m ∈ moves, m.Known contracts) →
      lastGoal? contracts moves = some goal →
      ((loaded config contracts).run moves).calls = [] →
      ((loaded config contracts).run moves).session.fetches = [] →
      ((loaded config contracts).run moves).session.selection.place = goal := by
  intro h
  have hplace := h Archive.ofVaultAndToken.oracle Archive.ofVaultAndToken.contracts {} slowFunction
    ⟨some 2, none⟩ (by decide +kernel) (by decide +kernel) steady_slowFunction known_slowFunction
    (by decide +kernel) (by decide +kernel) (by decide +kernel)
  exact absurd hplace (by decide +kernel)

end World

end RangeAudit
