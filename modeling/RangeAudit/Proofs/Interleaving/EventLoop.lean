import RangeAudit.Proofs.Interleaving.Tasks

namespace RangeAudit

/-!
# Worlds in which background tasks have turns of their own

A move delivers the answer to a background fetch in one go.  Below the moves, a task begins to run at some time,
the engine answers at another, the task goes on at a third, and that it has ended is noted at a fourth; and
anything may happen in between, also that the session is unloaded and the task is cancelled.

* `Tick`, `World.tick`, `World.elapse` — what can happen at this level, and what comes of it;
* `World.supervised_elapse` — every task is kept track of until it has ended or was cancelled;
* `World.exists_elapse_eq_run` — every run of moves is a course of ticks, in which the turns of a task follow
  each other immediately;
* `Session.Outlines`, `World.exists_run_outlines` — and every course of ticks is, but for the phases of the
  tasks, a run of moves.
-/

variable {known : (q : Query) → q.Answer → Prop}

/-- Does the move bring the answer to a background fetch? -/
def Move.isDelivery : Move → Bool
  | .deliver _ _ => true
  | _ => false

/-- What can happen next where background tasks have turns of their own. -/
inductive Tick where
  /-- A move that does not concern a background task. -/
  | move (m : Move) (h : m.isDelivery = false)
  /-- A task has its next turn. -/
  | turn (ticket : Nat)
  /-- The engine answers a task. -/
  | hear (ticket : Nat) (answers : Oracle)
  /-- It is noted that a task has ended. -/
  | discard (ticket : Nat)

namespace Tick

/-- The task that has its turn, is answered, or is noted to have ended. -/
def ticket? : Tick → Option Nat
  | .move _ _ => none
  | .turn ticket | .hear ticket _ | .discard ticket => some ticket

/-- The answer that the tick brings, if it brings one, is known. -/
def Tells (known : (q : Query) → q.Answer → Prop) : Tick → Prop
  | .move m _ => m.Tells known
  | .hear _ answers => ∀ q v, answers q = .ok v → known q v
  | .turn _ | .discard _ => True

/-- If everything counts as known, every tick tells only what is known. -/
theorem tells_of_true (t : Tick) : t.Tells fun _ _ => True := by
  cases t <;> simp [Tells, Move.tells_of_true]

end Tick

namespace World

/-- The world after a tick. -/
def tick (w : World) : Tick → World
  | .move m _ => w.step m
  | .turn ticket => { w with session := w.session.runTask ticket }
  | .hear ticket answers => { w with session := w.session.hear ticket answers }
  | .discard ticket => { w with session := w.session.discard ticket }

/-- The world after a course of ticks. -/
def elapse (w : World) (ticks : List Tick) : World :=
  ticks.foldl tick w

@[simp] theorem elapse_nil (w : World) : w.elapse [] = w := rfl

@[simp] theorem elapse_cons (w : World) (t : Tick) (ticks : List Tick) :
    w.elapse (t :: ticks) = (w.tick t).elapse ticks := rfl

/-- A course of ticks in two parts. -/
theorem elapse_append (w : World) (ticks more : List Tick) :
    w.elapse (ticks ++ more) = (w.elapse ticks).elapse more :=
  List.foldl_append

/-- **Run lemma.** What every tick that tells what is known preserves, holds after every course of such ticks. -/
theorem elapse_invariant (known : (q : Query) → q.Answer → Prop) (Inv : World → Prop)
    (htick : ∀ w t, Inv w → t.Tells known → Inv (w.tick t)) {w : World} (hw : Inv w) {ticks : List Tick}
    (hticks : ∀ t ∈ ticks, t.Tells known) : Inv (w.elapse ticks) := by
  induction ticks generalizing w with
  | nil => exact hw
  | cons t ticks ih =>
    exact ih (htick w t hw (hticks t List.mem_cons_self)) fun t' ht' => hticks t' (List.mem_cons_of_mem t ht')

/-- **Step lemma.** Whatever happens, the tasks remain under control. -/
theorem supervised_tick (w : World) (t : Tick) (h : w.session.Supervised) : (w.tick t).session.Supervised := by
  cases t with
  | move m => exact (changes_step w m m.tells_of_true).preserve (fun hchange => hchange.supervised) h
  | turn ticket => exact h.runTask ticket
  | hear ticket answers => exact h.hear ticket answers
  | discard ticket => exact h.discard ticket

/-- A session that has no tasks has them under control. -/
theorem supervised_fresh (config : Config) : (fresh config).session.Supervised :=
  ⟨Session.everyTask_of_tasks_empty rfl, Session.everyTask_of_tasks_empty rfl⟩

/-- **Run lemma.** Whatever has happened to a fresh session, a task is kept track of unless it has ended or was
    cancelled. -/
theorem supervised_elapse (config : Config) (ticks : List Tick) :
    ((fresh config).elapse ticks).session.Supervised :=
  elapse_invariant (fun _ _ => True) (fun w => w.session.Supervised)
    (fun w t h _ => supervised_tick w t h) (supervised_fresh config) fun t _ => t.tells_of_true

/-! ### Runs of moves are courses of ticks -/

/-- **Step lemma.** A move is a few ticks that bring the same answers: the answer to a background fetch is all
    that happens to its task. -/
theorem exists_elapse_eq_step {w : World} (h : w.session.Tallied) {m : Move} (hm : m.Tells known) :
    ∃ ticks : List Tick, (∀ t ∈ ticks, t.Tells known) ∧ w.elapse ticks = w.step m := by
  cases hdelivery : m.isDelivery with
  | false => exact ⟨[.move m hdelivery], List.forall_mem_singleton.mpr hm, rfl⟩
  | true =>
    cases m with
    | deliver f oracle =>
      by_cases hf : f ∈ w.session.fetches
      · refine ⟨[.turn f.ticket, .hear f.ticket oracle, .turn f.ticket, .discard f.ticket], ?_, ?_⟩
        · have hheard : (Tick.hear f.ticket oracle).Tells known := hm
          simp only [List.forall_mem_cons, Tick.Tells, List.not_mem_nil] at hheard ⊢
          exact ⟨trivial, hheard, trivial, trivial, nofun⟩
        · exact congrArg (fun s => { w with session := s })
            (Session.attend_runTask hf (h.tasks f hf) oracle)
      · refine ⟨[], nofun, ?_⟩
        rw [step, Session.settle, if_neg hf]
        rfl
    | issue | unload | navigate | reply | read => cases hdelivery

/-- **Run lemma.** Every run of moves is a course of ticks that bring the same answers. -/
theorem exists_elapse_eq_run (config : Config) {moves : List Move} (hmoves : ∀ m ∈ moves, m.Tells known) :
    ∃ ticks : List Tick, (∀ t ∈ ticks, t.Tells known) ∧
      (fresh config).elapse ticks = (fresh config).run moves := by
  suffices h : ∀ w : World, w.session.Tallied → ∃ ticks : List Tick, (∀ t ∈ ticks, t.Tells known) ∧
      w.elapse ticks = w.run moves from h _ (Session.tallied_of_idle rfl)
  induction moves with
  | nil => exact fun w _ => ⟨[], nofun, rfl⟩
  | cons m moves ih =>
    intro w hw
    have hm := hmoves m List.mem_cons_self
    obtain ⟨first, hfirst, hstep⟩ := exists_elapse_eq_step hw hm
    obtain ⟨rest, hrest, hrun⟩ := ih (fun m' hm' => hmoves m' (List.mem_cons_of_mem m hm')) (w.step m)
      ((changes_step w m hm).tallied hw)
    refine ⟨first ++ rest, List.forall_mem_append.mpr ⟨hfirst, hrest⟩, ?_⟩
    rw [elapse_append, hstep, hrun, run_cons]

end World

/-! ### Courses of ticks are runs of moves -/

namespace Session

/-- The fetches whose tasks will go on. -/
def liveFetches (s : Session) : List Fetch :=
  (s.tasks.filter Task.isLive).map Task.fetch

/-- The second session is the first one as the moves see it: a task that will go on is out, and how far it is
    does not matter. -/
inductive Outlines (s : Session) : Session → Prop
  | mk (tasks : List Task) (h : tasks.length = s.tasks.length) :
      Outlines s { s with tasks := tasks, fetches := s.liveFetches }

variable {s t : Session}

/-- An outline differs in its tasks, of which it has as many, and in that only the tasks that will go on are
    out. -/
theorem outlines_of_eq (hrest : t = { s with tasks := t.tasks, fetches := t.fetches })
    (htasks : t.tasks.length = s.tasks.length) (hfetches : t.fetches = s.liveFetches) : s.Outlines t := by
  rw [hrest, hfetches]
  exact .mk _ htasks

/-- In the outline, the tasks that will go on are out. -/
theorem Outlines.fetches (h : s.Outlines t) : t.fetches = s.liveFetches := by
  cases h
  rfl

theorem Outlines.contracts (h : s.Outlines t) : t.contracts = s.contracts := by
  cases h
  rfl

/-- Whether an analysis must be fetched does not depend on the tasks. -/
theorem Outlines.needsAnalysis (h : s.Outlines t) (c : Contract) : t.needsAnalysis c = s.needsAnalysis c := by
  cases h
  rfl

/-- Whether an answer is wanted does not depend on the tasks. -/
theorem Outlines.wants (h : s.Outlines t) (functionId : Option Int) (nodeId : Int) :
    t.wants functionId nodeId = s.wants functionId nodeId := by
  cases h
  rfl

/-- An event is applied to the same selection, and makes the same requests. -/
theorem Outlines.navigate (h : s.Outlines t) (event : NavigationEvent) :
    (t.navigate event).2 = (s.navigate event).2 ∧ (s.navigate event).1.Outlines (t.navigate event).1 := by
  cases h with
  | mk tasks htasks => exact ⟨rfl, .mk tasks htasks⟩

/-- The same source is displayed. -/
theorem Outlines.present (h : s.Outlines t) (node : Option Int) (source : MappedSource) :
    (s.present node source).Outlines (t.present node source) := by
  cases h with
  | mk tasks htasks => exact .mk tasks htasks

/-- The same analysis is used. -/
theorem Outlines.useAnalysis (h : s.Outlines t) (contract : String) (a : Analysis) :
    (s.useAnalysis contract a).Outlines (t.useAnalysis contract a) := by
  cases h with
  | mk tasks htasks => exact .mk tasks htasks

/-- The same view is read, and kept. -/
theorem Outlines.read (h : s.Outlines t) (view : KeptView) : (s.read view).Outlines (t.read view) := by
  -- Without contracts a view is not computed, and nothing is kept.
  rcases s with
    ⟨config, _ | contracts, selection, loaded, display, details, flowGraphs, live, fetches, memo, planted⟩ <;>
    · cases h with
      | mk tasks htasks => cases view <;> exact .mk tasks htasks

/-- A new task will go on, and is out in the outline; it gets the same number in both. -/
theorem Outlines.spawn (h : s.Outlines t) (aim : FetchAim) (functionId : Int) :
    (s.spawn aim functionId).Outlines (t.spawn aim functionId) := by
  cases h with
  | mk tasks htasks =>
    refine outlines_of_eq rfl ?_ ?_
    · simp [Session.spawn, htasks]
    · simp only [Session.spawn, liveFetches, nextTicket, htasks, List.filter_append, List.map_append]
      rfl

/-- The same turn of a call, in a session and in its outline. -/
structure SameTurn (first outlined : Turn × Session) : Prop where
  turn : outlined.1 = first.1
  session : first.2.Outlines outlined.2

/-- Making requests only creates tasks. -/
theorem Outlines.perform (h : s.Outlines t) (requests : List Request) :
    SameTurn (s.perform requests) (t.perform requests) := by
  induction requests generalizing s t with
  | nil => exact ⟨rfl, h⟩
  | cons request rest ih =>
    cases request with
    | source nodeId functionId => exact ⟨rfl, h⟩
    | flowGraph functionId => exact ih (h.spawn .flowGraph functionId)
    | pathDetail functionId => exact ih (h.spawn .detail functionId)

/-- Opening a function goes the same way in the outline. -/
theorem Outlines.openFunction (h : s.Outlines t) (owner : Option Contract) (functionId : Int) :
    SameTurn (s.openFunction owner functionId) (t.openFunction owner functionId) := by
  have hnavigated := h.navigate (.selectFunction functionId (owner.map Contract.id))
  unfold Session.openFunction
  dsimp only
  rw [hnavigated.1]
  exact hnavigated.2.perform _

/-- Selecting a contract goes the same way in the outline. -/
theorem Outlines.selectContract (h : s.Outlines t) (contracts : List Contract) (id : Int) :
    SameTurn (s.selectContract contracts id) (t.selectContract contracts id) := by
  unfold Session.selectContract
  split
  · exact ⟨rfl, h⟩
  · rename_i c _
    obtain ⟨hrequests, hselected⟩ := h.navigate (.selectContract id)
    dsimp only
    rw [hselected.needsAnalysis, hrequests]
    split
    · exact ⟨rfl, hselected⟩
    · exact hselected.perform _

/-- Selecting a function goes the same way in the outline. -/
theorem Outlines.selectFunction (h : s.Outlines t) (contracts : List Contract) (functionId : Int) :
    SameTurn (s.selectFunction contracts functionId) (t.selectFunction contracts functionId) := by
  unfold Session.selectFunction
  split
  · exact h.openFunction none functionId
  · rename_i owner _
    rw [h.needsAnalysis]
    split
    · exact ⟨rfl, h⟩
    · exact h.openFunction (some owner) functionId

/-- An event that fetches nothing ends the call at once. -/
theorem Outlines.steer (h : s.Outlines t) (event : NavigationEvent) :
    SameTurn (.finished, (s.navigate event).1) (.finished, (t.navigate event).1) :=
  ⟨rfl, (h.navigate event).2⟩

/-- The first turn of a command goes the same way in the outline. -/
theorem Outlines.begin (h : s.Outlines t) (command : Command) :
    SameTurn (s.begin command) (t.begin command) := by
  cases command with
  | load => exact ⟨rfl, h⟩
  | dispatch event =>
    unfold Session.begin
    dsimp only
    rw [h.contracts]
    cases s.contracts with
    | none => exact ⟨rfl, h⟩
    | some contracts =>
      cases event with
      | selectContract id => exact h.selectContract contracts id
      | selectFunction id contract => exact h.selectFunction contracts id
      | navigateToFunction id contract => exact h.selectFunction contracts id
      | _ => exact h.steer _

/-- Unloading leaves no task that will go on. -/
theorem Supervised.liveFetches_unload (h : s.Supervised) : s.unload.liveFetches = [] := by
  rw [liveFetches, List.map_eq_nil_iff, List.filter_eq_nil_iff]
  intro task htask
  obtain ⟨k, htask⟩ := List.mem_iff_getElem?.mp htask
  rw [h.not_isLive_unload k task htask]
  exact Bool.false_ne_true

/-- Unloading leaves no task that will go on, and in the outline nothing that is out. -/
theorem Outlines.unload (h : s.Outlines t) (hs : s.Supervised) : s.unload.Outlines t.unload := by
  cases h with
  | mk tasks htasks =>
    refine outlines_of_eq rfl ?_ hs.liveFetches_unload.symm
    simp only [Session.unload, List.length_map, htasks]

/-- The same contracts are loaded. -/
theorem Outlines.enter (h : s.Outlines t) (contracts : List Contract) :
    ({ s with contracts := some contracts } : Session).Outlines { t with contracts := some contracts } := by
  cases h with
  | mk tasks htasks => exact .mk tasks htasks

/-- The next turn of a call goes the same way in the outline, where the tasks are under control. -/
theorem Outlines.resume (h : s.Outlines t) (hs : s.Supervised) (w : Waiting)
    (answer : Except Fault w.query.Answer) : SameTurn (s.resume w answer) (t.resume w answer) := by
  cases answer with
  | error fault => cases w <;> exact ⟨rfl, h⟩
  | ok v =>
    cases w with
    | contracts =>
      exact ⟨rfl, (h.unload hs).enter v⟩
    | contractAnalysis c requests => exact (h.useAnalysis c.name v).perform requests
    | ownerAnalysis owner functionId => exact (h.useAnalysis owner.name v).openFunction (some owner) functionId
    | source nodeId functionId requests =>
      simp only [Session.resume, h.wants]
      split
      · exact (h.present (some nodeId) v).perform requests
      · exact h.perform requests

/-- Where a task stands among the others, and that what is put in its place stands there. -/
theorem exists_split {ticket : Nat} {task : Task} (htask : s.tasks[ticket]? = some task) :
    ∃ before after, s.tasks = before ++ task :: after ∧ before.length = ticket ∧
      ∀ next, (s.putTask ticket next).tasks = before ++ next :: after := by
  obtain ⟨hlt, rfl⟩ := List.getElem?_eq_some_iff.mp htask
  refine ⟨s.tasks.take ticket, s.tasks.drop (ticket + 1), ?_, ?_, fun next => ?_⟩
  · rw [List.getElem_cons_drop, List.take_append_drop]
  · rw [List.length_take, Nat.min_eq_left (Nat.le_of_lt hlt)]
  · rw [Session.putTask, List.set_eq_take_append_cons_drop, if_pos hlt]

/-- As long as a task will go on, or as long as it will not, how far it is does not matter. -/
theorem Outlines.putTask (h : s.Outlines t) {ticket : Nat} {task next : Task}
    (htask : s.tasks[ticket]? = some task) (hfetch : next.fetch = task.fetch)
    (hlive : next.isLive = task.isLive) : (s.putTask ticket next).Outlines t := by
  have hfetches : (s.putTask ticket next).liveFetches = s.liveFetches := by
    obtain ⟨before, after, hsplit, -, hput⟩ := exists_split htask
    rw [liveFetches, liveFetches, hsplit, hput, List.filter_append, List.filter_append, List.map_append,
      List.map_append, List.filter_cons, List.filter_cons, hlive]
    split
    · rw [List.map_cons, List.map_cons, hfetch]
    · rfl
  cases h with
  | mk tasks htasks =>
    refine outlines_of_eq rfl ?_ hfetches.symm
    rw [Session.putTask, List.length_set]
    exact htasks

/-- That the engine has answered a task does not show in the outline. -/
theorem Outlines.hear (h : s.Outlines t) (ticket : Nat) (answers : Oracle) :
    (s.hear ticket answers).Outlines t := by
  unfold Session.hear
  split
  · exact h
  · rename_i task htask
    exact h.putTask htask (Task.fetch_hear _) (Task.isLive_hear _)

/-- Nor does it show that the session loses track of a task. -/
theorem Outlines.discard (h : s.Outlines t) (ticket : Nat) : (s.discard ticket).Outlines t := by
  unfold Session.discard
  cases h with
  | mk tasks htasks =>
    split
    · exact .mk tasks htasks
    · split <;> exact .mk tasks htasks

/-- A task that will go on is out. -/
theorem Outlines.mem_fetches (h : s.Outlines t) {ticket : Nat} {task : Task}
    (htask : s.tasks[ticket]? = some task) (hlive : task.isLive = true) : task.fetch ∈ t.fetches := by
  rw [h.fetches]
  exact List.mem_map_of_mem (List.mem_filter.mpr ⟨List.mem_of_getElem? htask, hlive⟩)

/-- When a task comes to its end, it is not out any more. -/
theorem Outlines.close (h : s.Outlines t) (hs : s.Supervised) {ticket : Nat} {task : Task}
    (htask : s.tasks[ticket]? = some task) (hlive : task.isLive = true) :
    (s.putTask ticket task.finish).Outlines (t.close task.fetch) := by
  have hfetches : s.liveFetches.erase task.fetch = (s.putTask ticket task.finish).liveFetches := by
    obtain ⟨before, after, hsplit, hlength, hput⟩ := exists_split htask
    have hnot : task.fetch ∉ (before.filter Task.isLive).map Task.fetch := by
      rw [List.mem_map]
      rintro ⟨other, hother, hsame⟩
      -- The tasks before this one bear smaller numbers.
      obtain ⟨k, hk⟩ := List.mem_iff_getElem?.mp (List.mem_of_mem_filter hother)
      have hlt : k < before.length := (List.getElem?_eq_some_iff.mp hk).1
      have hnumber : other.fetch.ticket = k := by
        refine hs.numbered k other ?_
        rw [hsplit, List.getElem?_append_left hlt, hk]
      have hticket : task.fetch.ticket = ticket := hs.numbered ticket task htask
      rw [hsame] at hnumber
      omega
    rw [liveFetches, liveFetches, hsplit, hput, List.filter_append, List.filter_append, List.map_append,
      List.map_append, List.erase_append_right _ hnot, List.filter_cons, if_pos hlive, List.map_cons,
      List.erase_cons_head]
    rfl
  cases h with
  | mk tasks htasks =>
    refine outlines_of_eq rfl ?_ hfetches
    rw [Session.close, List.length_modify, Session.putTask, List.length_set]
    exact htasks

/-- The same answer is accepted. -/
theorem Outlines.accept (h : s.Outlines t) (f : Fetch) (answer : Except Fault f.query.Answer) :
    (s.accept f answer).Outlines (t.accept f answer) := by
  cases h with
  | mk tasks htasks =>
    rw [accept_with s tasks s.liveFetches]
    refine outlines_of_eq rfl ?_ ?_
    · rw [accept_tasks]
      exact htasks
    · rw [liveFetches, liveFetches, accept_tasks]

end Session

/-- No answer has come to a task that is not known. -/
def Task.Informed (known : (q : Query) → q.Answer → Prop) (t : Task) : Prop :=
  ∀ answer v, t.phase = .answered answer → answer = .ok v → known t.fetch.query v

/-- What was heard stays known. -/
theorem lasting_informed (known : (q : Query) → q.Answer → Prop) :
    Session.Lasting known fun _ task => task.Informed known where
  cancel k task h := by
    unfold Task.cancel
    split <;> exact h
  stop _ _ _ := nofun
  start _ _ _ _ := nofun
  hear k task answer hanswer h := by
    unfold Task.hear
    split
    · rintro _ v ⟨⟩ hv
      exact hanswer v hv
    · exact h
  finish _ _ _ := nofun

namespace World

/-- The second world is the first one as the moves see it. -/
structure Outlines (w v : World) : Prop where
  session : w.session.Outlines v.session
  calls : v.calls = w.calls

/-- **Step lemma.** A move that does not concern a background task is the same in the outline. -/
theorem Outlines.step {w v : World} (h : w.Outlines v) (hs : w.session.Supervised) {m : Move}
    (hm : m.isDelivery = false) : (w.step m).Outlines (v.step m) := by
  cases m with
  | issue command =>
    obtain ⟨hturn, hsession⟩ := h.session.begin command
    refine ⟨hsession, ?_⟩
    show v.calls ++ _ = w.calls ++ _
    rw [h.calls, hturn]
  | unload => exact ⟨h.session.unload hs, h.calls⟩
  | navigate event => exact ⟨(h.session.navigate event).2, h.calls⟩
  | reply k oracle =>
    -- The same call is resumed on both sides, since both worlds list the same ones.
    simp only [World.step, h.calls]
    cases w.calls[k]? with
    | none => exact h
    | some call =>
      obtain ⟨hturn, hsession⟩ := h.session.resume hs call (oracle call.query)
      refine ⟨hsession, ?_⟩
      dsimp only
      rw [hturn]
  | deliver => cases hm
  | read view => exact ⟨h.session.read view, h.calls⟩

/-- One answer, and none to any other query. -/
def onlyAnswer (query : Query) (answer : Except Fault query.Answer) : Oracle :=
  fun q => if h : query = q then h ▸ answer else .error .notLoaded

/-- The query that has an answer is answered with it. -/
theorem onlyAnswer_self (query : Query) (answer : Except Fault query.Answer) :
    onlyAnswer query answer query = answer := by
  rw [onlyAnswer, dif_pos rfl]

/-- If the one answer is known, so is every answer that is given. -/
theorem known_of_onlyAnswer {query : Query} {answer : Except Fault query.Answer}
    (h : ∀ v, answer = .ok v → known query v) (q : Query) (v : q.Answer)
    (hv : onlyAnswer query answer q = .ok v) : known q v := by
  unfold onlyAnswer at hv
  split at hv
  · rename_i hquery
    subst hquery
    exact h v hv
  · cases hv

/-- **Step lemma.** Of a tick of a task the moves see at most one thing: that the answer is accepted. -/
theorem Outlines.exists_run_tick {w v : World} (h : w.Outlines v) (hs : w.session.Supervised)
    (hinformed : w.session.EveryTask fun _ task => task.Informed known) {t : Tick} (ht : t.Tells known) :
    ∃ moves : List Move, (∀ m ∈ moves, m.Tells known) ∧ (w.tick t).Outlines (v.run moves) := by
  cases t with
  -- A move of a caller is matched by itself.
  | move m hm => exact ⟨[m], List.forall_mem_singleton.mpr ht, h.step hs hm⟩
  -- An answer that reaches a task, and a task that leaves the set, change nothing that shows.
  | hear ticket answers => exact ⟨[], nofun, h.session.hear ticket answers, h.calls⟩
  | discard ticket => exact ⟨[], nofun, h.session.discard ticket, h.calls⟩
  | turn ticket =>
    -- Of the turns of a task only the one that returns is matched by a move, the delivery of its answer.
    have hturn := w.session.taskTurn_runTask ticket
    simp only [tick]
    generalize w.session.runTask ticket = next at hturn ⊢
    cases hturn with
    | idle => exact ⟨[], nofun, h⟩
    | stopped task htask hdone hcancel =>
      have hlive : task.isLive = false := by simp [Task.isLive, hcancel]
      exact ⟨[], nofun, h.session.putTask htask rfl hlive.symm, h.calls⟩
    | begun task htask hphase hcancel =>
      have hlive : task.isLive = true :=
        Task.isLive_eq_true_iff.mpr ⟨Task.isDone_of_phase_created hphase, hcancel⟩
      refine ⟨[], nofun, h.session.putTask htask rfl ?_, h.calls⟩
      rw [hlive, Task.isLive, hcancel]
      rfl
    | returned task answer htask hphase hcancel =>
      have hlive : task.isLive = true :=
        Task.isLive_eq_true_iff.mpr ⟨Task.isDone_of_phase_answered hphase, hcancel⟩
      have hknown : ∀ v, answer = .ok v → known task.fetch.query v :=
        fun v hv => hinformed ticket task htask answer v hphase hv
      refine ⟨[.deliver task.fetch (onlyAnswer task.fetch.query answer)],
        List.forall_mem_singleton.mpr (known_of_onlyAnswer hknown), ?_, h.calls⟩
      rw [run_cons, run_nil, World.step, onlyAnswer_self, Session.settle,
        if_pos (h.session.mem_fetches htask hlive)]
      exact (h.session.close hs htask hlive).accept task.fetch answer

/-- **Step lemma.** What has come to the tasks stays known. -/
theorem informed_tick (w : World) {t : Tick} (ht : t.Tells known)
    (h : w.session.EveryTask fun _ task => task.Informed known) :
    (w.tick t).session.EveryTask fun _ task => task.Informed known := by
  cases t with
  | move m =>
    refine (changes_step w m ht).preserve (fun hchange hs => ?_) h
    exact hchange.everyTask (lasting_informed known) (fun _ _ _ _ => nofun) hs
  | turn ticket => exact h.runTask (lasting_informed known) ticket
  | hear ticket answers => exact h.hear (lasting_informed known) ticket ht
  | discard ticket => exact h.discard ticket

/-- **Run lemma.** Whatever happens to the tasks and when, for the moves it is a run that brings the same answers:
    the calls are the same, and so is the session, but for how far the tasks are. -/
theorem exists_run_outlines (config : Config) {ticks : List Tick} (hticks : ∀ t ∈ ticks, t.Tells known) :
    ∃ moves : List Move, (∀ m ∈ moves, m.Tells known) ∧
      ((fresh config).elapse ticks).Outlines ((fresh config).run moves) := by
  suffices h : ∀ w v : World, w.session.Supervised →
      w.session.EveryTask (fun _ task => task.Informed known) → w.Outlines v →
      ∃ moves : List Move, (∀ m ∈ moves, m.Tells known) ∧ (w.elapse ticks).Outlines (v.run moves) from
    h _ _ (supervised_fresh config) (Session.everyTask_of_tasks_empty rfl) ⟨.mk [] rfl, rfl⟩
  induction ticks with
  | nil => exact fun w v _ _ h => ⟨[], nofun, h⟩
  | cons t ticks ih =>
    intro w v hs hinformed h
    have ht := hticks t List.mem_cons_self
    obtain ⟨first, hfirst, hstep⟩ := h.exists_run_tick hs hinformed ht
    obtain ⟨rest, hrest, hrun⟩ := ih (fun t' ht' => hticks t' (List.mem_cons_of_mem t ht')) (w.tick t)
      (v.run first) (supervised_tick w t hs) (informed_tick w ht hinformed) hstep
    refine ⟨first ++ rest, List.forall_mem_append.mpr ⟨hfirst, hrest⟩, ?_⟩
    rw [run_append]
    exact hrun

end World

end RangeAudit
