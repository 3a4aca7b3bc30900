import Mathlib.Data.List.Nodup
import RangeAudit.Proofs.Interleaving.Change

namespace RangeAudit

/-!
# Background tasks and the session that keeps track of them

A session keeps track of its background tasks by what they fetch, and apart from this list every task goes
through its phases on its own.  This module says what a turn of a task can do, and how the list and the tasks
hang together.

* `Session.TaskTurn`, `Session.taskTurn_runTask` — all ways in which the turn of a task can go;
* `Session.EveryTask`, `Session.Lasting` — what holds of every task, and what nothing that happens to a task
  undoes;
* `Session.Supervised` — a task is kept track of until it has ended or was cancelled, which every change of the
  session and every turn of a task preserves;
* `Session.Tallied` — as long as all turns of a task come in one, the tasks that are kept track of are those
  that have not begun;
* `Session.attend_runTask` — such a task does in its turns what `Session.settle` says in one.
-/

namespace Task

variable {t : Task}

@[simp] theorem isLive_ofFetch (f : Fetch) : (ofFetch f).isLive = true := rfl

@[simp] theorem isLive_finish : t.finish.isLive = false := rfl

/-- A task that is cancelled is after the same data. -/
@[simp] theorem fetch_cancel : t.cancel.fetch = t.fetch := by
  unfold cancel
  split <;> rfl

/-- A task that was asked to stop, or had ended already, will not go on. -/
@[simp] theorem isLive_cancel : t.cancel.isLive = false := by
  unfold cancel
  by_cases h : t.isDone
  · rw [if_pos h, isLive, h]
    rfl
  · rw [if_neg h, isLive]
    exact Bool.and_false _

/-- A task that is answered is after the same data. -/
@[simp] theorem fetch_hear (answer : Except Fault t.fetch.query.Answer) : (t.hear answer).fetch = t.fetch := by
  unfold hear
  split <;> rfl

/-- A task will go on unless it has ended or was asked to stop. -/
theorem isLive_eq_true_iff : t.isLive = true ↔ t.isDone = false ∧ t.cancelRequested = false := by
  simp [isLive]

/-- A task will not go on if it has ended or was asked to stop. -/
theorem isLive_eq_false_iff : t.isLive = false ↔ t.isDone = true ∨ t.cancelRequested = true := by
  rw [isLive, Bool.and_eq_false_iff, Bool.not_eq_false', Bool.not_eq_false']

/-- A task that waits, and is to go on, will go on. -/
theorem isLive_of_isWaiting (h : t.isWaiting = true) : t.isLive = true := by
  unfold isWaiting at h
  split at h
  · rename_i hphase
    rw [isLive, isDone, hphase]
    exact h
  all_goals cases h

/-- An answer ends no task, and makes none go on that was asked to stop. -/
@[simp] theorem isLive_hear (answer : Except Fault t.fetch.query.Answer) :
    (t.hear answer).isLive = t.isLive := by
  unfold hear
  split
  · rename_i hwaiting
    -- The task was to go on, and was not asked to stop meanwhile.
    have hlive := isLive_of_isWaiting hwaiting
    rw [hlive, isLive, (isLive_eq_true_iff.mp hlive).2]
    rfl
  · rfl

/-- Only a task that was created or waits, or has its answer, has not ended. -/
theorem isDone_of_phase_created (h : t.phase = .created) : t.isDone = false := by
  simp only [isDone, h]

/-- Nor has a task ended that has its answer. -/
theorem isDone_of_phase_answered {answer : Except Fault t.fetch.query.Answer} (h : t.phase = .answered answer) :
    t.isDone = false := by
  simp only [isDone, h]

end Task

namespace Session

variable {known : (q : Query) → q.Answer → Prop} {s t : Session} {ticket : Nat}

/-! ### Turns of tasks -/

/-- Accepting an answer concerns the data of functions only. -/
theorem accept_eq (s : Session) (f : Fetch) (answer : Except Fault f.query.Answer) :
    ∃ flowGraphs details memo,
      s.accept f answer = { s with flowGraphs := flowGraphs, details := details, memo := memo } := by
  obtain ⟨ticket, aim, functionId⟩ := f
  cases answer with
  | error fault => cases aim <;> exact ⟨_, _, _, rfl⟩
  | ok v => cases aim <;> simp only [accept] <;> split <;> exact ⟨_, _, _, rfl⟩

/-- Accepting an answer leaves the tasks alone. -/
@[simp] theorem accept_tasks (s : Session) (f : Fetch) (answer : Except Fault f.query.Answer) :
    (s.accept f answer).tasks = s.tasks := by
  obtain ⟨_, _, _, h⟩ := s.accept_eq f answer
  rw [h]

/-- Accepting an answer leaves alone what is kept track of. -/
@[simp] theorem accept_fetches (s : Session) (f : Fetch) (answer : Except Fault f.query.Answer) :
    (s.accept f answer).fetches = s.fetches := by
  obtain ⟨_, _, _, h⟩ := s.accept_eq f answer
  rw [h]

/-- The same answer is accepted whatever becomes of the tasks. -/
theorem accept_with (s : Session) (tasks : List Task) (fetches : List Fetch) (f : Fetch)
    (answer : Except Fault f.query.Answer) :
    ({ s with tasks := tasks, fetches := fetches } : Session).accept f answer =
      { s.accept f answer with tasks := tasks, fetches := fetches } := by
  obtain ⟨ticket, aim, functionId⟩ := f
  cases answer with
  | error fault => cases aim <;> rfl
  | ok v =>
    have hwants : ({ s with tasks := tasks, fetches := fetches } : Session).wants (some functionId) functionId =
      s.wants (some functionId) functionId := rfl
    cases aim <;>
      · simp only [accept, hwants]
        split <;> rfl

/-- How the turn of a task can go. -/
inductive TaskTurn (s : Session) (ticket : Nat) : Session → Prop
  /-- There is no such task, or it has ended, or it waits for the engine. -/
  | idle : TaskTurn s ticket s
  /-- The cancellation takes effect. -/
  | stopped (task : Task) (htask : s.tasks[ticket]? = some task) (hdone : task.isDone = false)
      (hcancel : task.cancelRequested = true) :
      TaskTurn s ticket (s.putTask ticket { task with phase := .cancelled })
  /-- The engine is asked. -/
  | begun (task : Task) (htask : s.tasks[ticket]? = some task) (hphase : task.phase = .created)
      (hcancel : task.cancelRequested = false) :
      TaskTurn s ticket (s.putTask ticket { task with phase := .waiting })
  /-- The answer is accepted. -/
  | returned (task : Task) (answer : Except Fault task.fetch.query.Answer)
      (htask : s.tasks[ticket]? = some task) (hphase : task.phase = .answered answer)
      (hcancel : task.cancelRequested = false) :
      TaskTurn s ticket ((s.putTask ticket task.finish).accept task.fetch answer)

/-- **Inversion.** The turn of a task goes in one of four ways. -/
theorem taskTurn_runTask (s : Session) (ticket : Nat) : s.TaskTurn ticket (s.runTask ticket) := by
  unfold runTask
  split
  · exact .idle
  · rename_i task htask
    split
    · exact .idle
    · rename_i hdone
      split
      · rename_i hcancel
        exact .stopped task htask (by simpa using hdone) hcancel
      · rename_i hcancel
        split
        · rename_i hphase
          exact .begun task htask hphase (by simpa using hcancel)
        · rename_i answer hphase
          exact .returned task answer htask hphase (by simpa using hcancel)
        · exact .idle

/-! ### What holds of every task -/

/-- All tasks have a property, each together with its number. -/
def EveryTask (P : Nat → Task → Prop) (s : Session) : Prop :=
  ∀ (k : Nat) (task : Task), s.tasks[k]? = some task → P k task

/-- A property of tasks that nothing that happens to a task undoes. Only known answers are heard. -/
structure Lasting (known : (q : Query) → q.Answer → Prop) (P : Nat → Task → Prop) : Prop where
  cancel : ∀ k task, P k task → P k task.cancel
  stop : ∀ k task, P k task → P k { task with phase := .cancelled }
  start : ∀ k task, task.isLive = true → P k task → P k { task with phase := .waiting }
  hear : ∀ k task answer, (∀ v, answer = .ok v → known task.fetch.query v) → P k task → P k (task.hear answer)
  finish : ∀ k task, P k task → P k task.finish

variable {P : Nat → Task → Prop}

/-- A weaker property holds of every task, too. -/
theorem EveryTask.imp {Q : Nat → Task → Prop} (hPQ : ∀ k task, P k task → Q k task) (h : s.EveryTask P) :
    s.EveryTask Q :=
  fun k task htask => hPQ k task (h k task htask)

/-- A property of every task only depends on the tasks. -/
theorem EveryTask.congr (h : s.EveryTask P) (htasks : t.tasks = s.tasks) : t.EveryTask P := by
  rw [EveryTask, htasks]
  exact h

/-- Where there are no tasks, nothing need hold of them. -/
theorem everyTask_of_tasks_empty (h : s.tasks = []) : s.EveryTask P := by
  intro k task htask
  rw [h, List.getElem?_nil] at htask
  cases htask

/-- What is put in the place of a task is the only task that is new. -/
theorem EveryTask.putTask (h : s.EveryTask P) {next : Task} (hnext : P ticket next) :
    (s.putTask ticket next).EveryTask P := by
  intro k task htask
  rw [Session.putTask, List.getElem?_set] at htask
  split at htask
  · rename_i hk
    subst hk
    split at htask
    · exact Option.some.inj htask ▸ hnext
    · cases htask
  · exact h k task htask

/-- **Step lemma.** The turn of a task undoes no lasting property. -/
theorem EveryTask.runTask (h : s.EveryTask P) (hP : Lasting known P) (ticket : Nat) :
    (s.runTask ticket).EveryTask P := by
  have hturn := s.taskTurn_runTask ticket
  generalize s.runTask ticket = next at hturn ⊢
  cases hturn with
  | idle => exact h
  | stopped task htask => exact h.putTask (hP.stop ticket task (h ticket task htask))
  | begun task htask hphase hcancel =>
    have hlive : task.isLive = true :=
      Task.isLive_eq_true_iff.mpr ⟨Task.isDone_of_phase_created hphase, hcancel⟩
    exact h.putTask (hP.start ticket task hlive (h ticket task htask))
  | returned task answer htask =>
    have hfinished : (s.putTask ticket task.finish).EveryTask P :=
      h.putTask (hP.finish ticket task (h ticket task htask))
    exact hfinished.congr (accept_tasks ..)

/-- **Step lemma.** A known answer undoes no lasting property. -/
theorem EveryTask.hear (h : s.EveryTask P) (hP : Lasting known P) (ticket : Nat) {answers : Oracle}
    (hanswers : ∀ q v, answers q = .ok v → known q v) : (s.hear ticket answers).EveryTask P := by
  unfold Session.hear
  split
  · exact h
  · rename_i task htask
    exact h.putTask (hP.hear ticket task _ (hanswers task.fetch.query) (h ticket task htask))

/-- When the session loses track of a task, the task remains as it is. -/
theorem EveryTask.discard (h : s.EveryTask P) (ticket : Nat) : (s.discard ticket).EveryTask P := by
  unfold Session.discard
  split
  · exact h
  · split <;> exact h

/-- When a task is created, the property is to be shown of the new task only, which gets the next number. -/
theorem EveryTask.spawn (h : s.EveryTask P) (aim : FetchAim) (functionId : Int)
    (hnew : P s.nextTicket (.ofFetch ⟨s.nextTicket, aim, functionId⟩)) :
    (s.spawn aim functionId).EveryTask P := by
  intro k task htask
  rw [Session.spawn, List.getElem?_append] at htask
  split at htask
  · exact h k task htask
  · -- Beyond the old tasks there is one place, and its ticket is their number.
    rename_i hk
    obtain ⟨hlt, hlast⟩ := List.getElem?_eq_some_iff.mp htask
    rw [List.getElem_singleton] at hlast
    rw [List.length_singleton] at hlt
    have hticket : k = s.nextTicket := by
      rw [nextTicket]
      omega
    rw [hticket, ← hlast]
    exact hnew

/-- Unloading cancels some of the tasks, and leaves the others as they are. -/
theorem EveryTask.unload (h : s.EveryTask P) (hP : Lasting known P) : s.unload.EveryTask P := by
  intro k task htask
  rw [Session.unload, List.getElem?_map, Option.map_eq_some_iff] at htask
  obtain ⟨before, hbefore, rfl⟩ := htask
  split
  · exact hP.cancel k before (h k before hbefore)
  · exact h k before hbefore

/-- Of a task that comes to its end, the property is one that lasts. -/
theorem EveryTask.close (h : s.EveryTask P) (hP : Lasting known P) (f : Fetch) : (s.close f).EveryTask P := by
  intro k task htask
  rw [Session.close, List.getElem?_modify] at htask
  obtain ⟨before, hbefore, rfl⟩ := Option.map_eq_some_iff.mp htask
  split
  · exact hP.finish k before (h k before hbefore)
  · exact h k before hbefore

/-- **Step lemma.** A change of the session undoes no lasting property that new tasks have. -/
theorem Change.everyTask (hchange : Change known s t) (hP : Lasting known P)
    (hnew : ∀ aim functionId, P s.nextTicket (.ofFetch ⟨s.nextTicket, aim, functionId⟩))
    (h : s.EveryTask P) : t.EveryTask P := by
  cases hchange with
  | spawn aim functionId => exact h.spawn aim functionId (hnew aim functionId)
  | unload => exact h.unload hP
  | close f => exact h.close hP f
  | read view =>
    obtain ⟨_, hread⟩ := s.read_eq view
    rw [hread]
    exact h.congr rfl
  | navigate | present | useAnalysis | enter | keepFlowGraph | keepDetail => exact h.congr rfl

/-! ### Tasks that are kept track of -/

/-- Every task has the number of its position, and is kept track of until it has ended or was cancelled. -/
structure Supervised (s : Session) : Prop where
  numbered : s.EveryTask fun k task => task.fetch.ticket = k
  tracked : s.EveryTask fun _ task => task.isLive = true → task.fetch ∈ s.fetches

/-- A task keeps its number. -/
theorem lasting_numbered (known : (q : Query) → q.Answer → Prop) :
    Lasting known fun k task => task.fetch.ticket = k where
  cancel _ _ h := by rw [Task.fetch_cancel]; exact h
  stop _ _ h := h
  start _ _ _ h := h
  hear _ _ _ _ h := by rw [Task.fetch_hear]; exact h
  finish _ _ h := h

/-- Whatever is kept track of, a task is not set going again. -/
theorem lasting_tracked (known : (q : Query) → q.Answer → Prop) (fetches : List Fetch) :
    Lasting known fun _ task => task.isLive = true → task.fetch ∈ fetches where
  cancel _ _ _ hlive := absurd hlive (by simp)
  stop _ _ _ hlive := absurd hlive Bool.false_ne_true
  start _ _ hlive h _ := h hlive
  hear _ _ _ _ h hlive := by
    rw [Task.isLive_hear] at hlive
    rw [Task.fetch_hear]
    exact h hlive
  finish _ _ _ hlive := absurd hlive Bool.false_ne_true

/-- Whether the tasks are under control only depends on the tasks and on what is kept track of. -/
theorem Supervised.congr (h : s.Supervised) (htasks : t.tasks = s.tasks) (hfetches : t.fetches = s.fetches) :
    t.Supervised :=
  ⟨h.numbered.congr htasks, by rw [hfetches]; exact h.tracked.congr htasks⟩

/-- The turn of a task leaves alone what is kept track of. -/
@[simp] theorem runTask_fetches (s : Session) (ticket : Nat) : (s.runTask ticket).fetches = s.fetches := by
  have hturn := s.taskTurn_runTask ticket
  generalize s.runTask ticket = next at hturn ⊢
  cases hturn with
  | returned => exact accept_fetches ..
  | idle | stopped | begun => rfl

/-- The turn of a task creates none. -/
@[simp] theorem runTask_nextTicket (s : Session) (ticket : Nat) :
    (s.runTask ticket).nextTicket = s.nextTicket := by
  have hturn := s.taskTurn_runTask ticket
  generalize s.runTask ticket = next at hturn ⊢
  cases hturn with
  | returned => rw [nextTicket, accept_tasks, Session.putTask, List.length_set, nextTicket]
  | idle => rfl
  | stopped | begun => rw [nextTicket, Session.putTask, List.length_set, nextTicket]

/-- An answer leaves alone what is kept track of. -/
@[simp] theorem hear_fetches (s : Session) (ticket : Nat) (answers : Oracle) :
    (s.hear ticket answers).fetches = s.fetches := by
  unfold Session.hear
  split <;> rfl

/-- An answer creates no task. -/
@[simp] theorem hear_nextTicket (s : Session) (ticket : Nat) (answers : Oracle) :
    (s.hear ticket answers).nextTicket = s.nextTicket := by
  unfold Session.hear
  split
  · rfl
  · rw [nextTicket, Session.putTask, List.length_set, nextTicket]

/-- The turn of a task keeps the tasks under control: what ends a task makes none go on. -/
theorem Supervised.runTask (h : s.Supervised) (ticket : Nat) : (s.runTask ticket).Supervised := by
  refine ⟨h.numbered.runTask (lasting_numbered fun _ _ => True) ticket, ?_⟩
  rw [runTask_fetches]
  exact h.tracked.runTask (lasting_tracked (fun _ _ => True) s.fetches) ticket

/-- An answer to a task keeps the tasks under control. -/
theorem Supervised.hear (h : s.Supervised) (ticket : Nat) (answers : Oracle) :
    (s.hear ticket answers).Supervised := by
  refine ⟨h.numbered.hear (lasting_numbered fun _ _ => True) ticket fun _ _ _ => trivial, ?_⟩
  rw [hear_fetches]
  exact h.tracked.hear (lasting_tracked (fun _ _ => True) s.fetches) ticket fun _ _ _ => trivial

/-- Tasks at different positions are different fetches, so losing track of one leaves the others. -/
theorem Supervised.mem_erase (h : s.Supervised) {k : Nat} {task : Task} (htask : s.tasks[k]? = some task)
    (hlive : task.isLive = true) {f : Fetch} (hf : f.ticket ≠ k) : task.fetch ∈ s.fetches.erase f := by
  have hne : task.fetch ≠ f := by
    rintro rfl
    exact hf (h.numbered k task htask)
  exact (List.mem_erase_of_ne hne).mpr (h.tracked k task htask hlive)

/-- The session loses track only of a task that has ended. -/
theorem Supervised.discard (h : s.Supervised) (ticket : Nat) : (s.discard ticket).Supervised := by
  refine ⟨h.numbered.discard ticket, ?_⟩
  unfold Session.discard
  split
  · exact h.tracked
  · rename_i task htask
    split
    · rename_i hdone
      intro k other hother hlive
      refine h.mem_erase hother hlive fun hk => ?_
      -- This is the task that has ended.
      have hticket : k = ticket := hk.symm.trans (h.numbered ticket task htask)
      obtain rfl := Option.some.inj (htask.symm.trans (hticket ▸ hother))
      rw [(Task.isLive_eq_true_iff.mp hlive).1] at hdone
      cases hdone
    · exact h.tracked

/-- A new task is kept track of from its creation. -/
theorem Supervised.spawn (h : s.Supervised) (aim : FetchAim) (functionId : Int) :
    (s.spawn aim functionId).Supervised := by
  refine ⟨h.numbered.spawn aim functionId rfl, ?_⟩
  refine EveryTask.spawn (h.tracked.imp fun _ _ htracked hlive => ?_) aim functionId fun _ => ?_
  · exact List.mem_append_left _ (htracked hlive)
  · exact List.mem_append_right _ (List.mem_singleton_self _)

/-- Unloading leaves no task that will go on: what is not kept track of has ended, or was cancelled before. -/
theorem Supervised.not_isLive_unload (h : s.Supervised) :
    s.unload.EveryTask fun _ task => task.isLive = false := by
  intro k task htask
  rw [unload, List.getElem?_map, Option.map_eq_some_iff] at htask
  obtain ⟨before, hbefore, rfl⟩ := htask
  split
  · exact Task.isLive_cancel
  · rename_i huntracked
    rw [Bool.eq_false_iff]
    exact fun hlive => huntracked (h.tracked k before hbefore hlive)

/-- After an unloading nothing is kept track of, and no task will go on. -/
theorem Supervised.unload (h : s.Supervised) : s.unload.Supervised where
  numbered := h.numbered.unload (lasting_numbered fun _ _ => True)
  tracked := h.not_isLive_unload.imp fun _ _ hstopped hlive => absurd hlive (by simp [hstopped])

/-- Together with the task that has come to its end, the session loses track of no other. -/
theorem Supervised.close (h : s.Supervised) (f : Fetch) : (s.close f).Supervised := by
  refine ⟨h.numbered.close (lasting_numbered fun _ _ => True) f, ?_⟩
  intro k task htask hlive
  rw [Session.close, List.getElem?_modify] at htask
  obtain ⟨before, hbefore, hafter⟩ := Option.map_eq_some_iff.mp htask
  by_cases hk : f.ticket = k
  · -- The task that has come to its end is not live.
    rw [if_pos hk] at hafter
    subst hafter
    cases hlive
  · rw [if_neg hk] at hafter
    subst hafter
    exact h.mem_erase hbefore hlive hk

/-- **Step lemma.** Every change of a session keeps its tasks under control. -/
theorem Change.supervised (hchange : Change known s t) (h : s.Supervised) : t.Supervised := by
  cases hchange with
  | spawn aim functionId => exact h.spawn aim functionId
  | unload => exact h.unload
  | close f => exact h.close f
  | read view =>
    obtain ⟨_, hread⟩ := s.read_eq view
    rw [hread]
    exact h.congr rfl rfl
  | navigate | present | useAnalysis | enter | keepFlowGraph | keepDetail => exact h.congr rfl rfl

/-! ### All turns in one -/

/-- The tasks that are kept track of have not begun, and are kept track of once. -/
structure Tallied (s : Session) : Prop where
  tasks : ∀ f ∈ s.fetches, s.tasks[f.ticket]? = some (.ofFetch f)
  nodup : s.fetches.Nodup

/-- The tally only depends on the tasks and on what is kept track of. -/
theorem Tallied.congr (h : s.Tallied) (htasks : t.tasks = s.tasks) (hfetches : t.fetches = s.fetches) :
    t.Tallied :=
  ⟨by rw [htasks, hfetches]; exact h.tasks, hfetches ▸ h.nodup⟩

/-- A session that keeps track of nothing. -/
theorem tallied_of_idle (h : s.fetches = []) : s.Tallied :=
  ⟨by simp [h], by simp [h]⟩

/-- What is kept track of bears a number that was given out. -/
theorem Tallied.lt (h : s.Tallied) {f : Fetch} (hf : f ∈ s.fetches) : f.ticket < s.nextTicket :=
  (List.getElem?_eq_some_iff.mp (h.tasks f hf)).1

/-- A new task has not begun, and its number was not given out before. -/
theorem Tallied.spawn (h : s.Tallied) (aim : FetchAim) (functionId : Int) :
    (s.spawn aim functionId).Tallied := by
  constructor
  · intro f hf
    rcases List.mem_append.mp hf with hold | hnew
    · rw [Session.spawn, List.getElem?_append_left (h.lt hold)]
      exact h.tasks f hold
    · rw [List.mem_singleton.mp hnew]
      exact List.getElem?_concat_length
  · refine List.nodup_append.mpr ⟨h.nodup, List.nodup_singleton _, ?_⟩
    -- A new ticket is above all old ones.
    intro f hold g hnew hsame
    have hlt := h.lt hold
    rw [hsame, List.mem_singleton.mp hnew] at hlt
    exact Nat.lt_irrefl _ hlt

/-- Fetches that are kept track of bear different numbers. -/
theorem Tallied.eq_of_ticket_eq (h : s.Tallied) {f g : Fetch} (hf : f ∈ s.fetches) (hg : g ∈ s.fetches)
    (hsame : f.ticket = g.ticket) : f = g := by
  have htasks : some (Task.ofFetch f) = some (Task.ofFetch g) := by
    rw [← h.tasks f hf, ← h.tasks g hg, hsame]
  exact congrArg Task.fetch (Option.some.inj htasks)

/-- When a task has come to its end, the tasks that are still kept track of are others, and have not begun. -/
theorem Tallied.close (h : s.Tallied) {f : Fetch} (hf : f ∈ s.fetches) : (s.close f).Tallied := by
  refine ⟨fun g hg => ?_, h.nodup.erase f⟩
  obtain ⟨hne, hg⟩ := h.nodup.mem_erase_iff.mp hg
  have hticket : f.ticket ≠ g.ticket := fun hsame => hne (h.eq_of_ticket_eq hf hg hsame).symm
  rw [Session.close, List.getElem?_modify, h.tasks g hg]
  exact congrArg some (if_neg hticket)

/-- **Step lemma.** Every change of a session keeps the tally. -/
theorem Change.tallied (hchange : Change known s t) (h : s.Tallied) : t.Tallied := by
  cases hchange with
  | spawn aim functionId => exact h.spawn aim functionId
  | unload => exact tallied_of_idle rfl
  | close f hf => exact h.close hf
  | read view =>
    obtain ⟨_, hread⟩ := s.read_eq view
    rw [hread]
    exact h.congr rfl rfl
  | navigate | present | useAnalysis | enter | keepFlowGraph | keepDetail => exact h.congr rfl rfl

/-- **Run lemma.** A sequence of changes keeps the tally. -/
theorem Changes.tallied (hchanges : Changes known s t) (h : s.Tallied) : t.Tallied :=
  hchanges.preserve (fun hchange => hchange.tallied) h

/-- A task that has just begun waits for the engine. -/
theorem runTask_ofFetch {f : Fetch} (htask : s.tasks[f.ticket]? = some (.ofFetch f)) :
    s.runTask f.ticket = s.putTask f.ticket { Task.ofFetch f with phase := .waiting } := by
  rw [runTask, htask]
  rfl

/-- After its first turn, a task waits for the engine. -/
theorem isWaiting_runTask {f : Fetch} (htask : s.tasks[f.ticket]? = some (.ofFetch f)) :
    (s.runTask f.ticket).isWaiting f.ticket = true := by
  have hlt : f.ticket < s.tasks.length := (List.getElem?_eq_some_iff.mp htask).1
  rw [runTask_ofFetch htask, isWaiting, putTask, List.getElem?_set_self hlt]
  rfl

/-- That the session loses track of a task that has ended does not depend on what is accepted before. -/
theorem discard_accept {task : Task} (htask : s.tasks[ticket]? = some task) (hdone : task.isDone = true)
    (f : Fetch) (answer : Except Fault f.query.Answer) :
    (s.accept f answer).discard ticket =
      ({ s with fetches := s.fetches.erase task.fetch } : Session).accept f answer := by
  have hkept := s.accept_with s.tasks (s.fetches.erase task.fetch) f answer
  obtain ⟨_, _, _, haccepted⟩ := s.accept_eq f answer
  rw [haccepted] at hkept
  rw [Session.discard, accept_tasks, htask, haccepted]
  simp only [hdone, if_true]
  exact hkept.symm

/-- **All turns in one.** A task that has not begun asks the engine in its first turn; the answer, the turn after
    it and the note that the task has ended then do what `settle` says. -/
theorem attend_runTask {f : Fetch} (hf : f ∈ s.fetches) (htask : s.tasks[f.ticket]? = some (.ofFetch f))
    (answers : Oracle) :
    (s.runTask f.ticket).attend f.ticket answers = s.settle f (answers f.query) := by
  have hlt : f.ticket < s.tasks.length := (List.getElem?_eq_some_iff.mp htask).1
  have hset : ∀ task : Task, (s.putTask f.ticket task).tasks[f.ticket]? = some task :=
    fun task => List.getElem?_set_self hlt
  have hput : ∀ task next : Task, (s.putTask f.ticket task).putTask f.ticket next = s.putTask f.ticket next := by
    intro task next
    simp only [putTask, List.set_set]
  -- The task's steps one by one: it is started and waits, hears its answer, returns, and is taken out.
  have hheard : (s.putTask f.ticket { Task.ofFetch f with phase := .waiting }).hear f.ticket answers =
      s.putTask f.ticket { Task.ofFetch f with phase := .answered (answers f.query) } := by
    rw [Session.hear, hset]
    exact hput _ _
  have hreturned : (s.putTask f.ticket { Task.ofFetch f with phase := .answered (answers f.query) }).runTask
      f.ticket = (s.putTask f.ticket (Task.ofFetch f).finish).accept f (answers f.query) := by
    rw [Session.runTask, hset]
    exact congrArg (accept · f (answers f.query)) (hput _ _)
  -- A task that has ended and whose fetch is taken out is what closing the fetch leaves.
  have hclosed : ({ s.putTask f.ticket (Task.ofFetch f).finish with fetches := s.fetches.erase f } : Session) =
      s.close f := by
    rw [Session.close, List.modify_eq_set_getElem?, htask]
    rfl
  rw [runTask_ofFetch htask, attend, hheard, hreturned, discard_accept (hset _) rfl, settle, if_pos hf,
    ← hclosed]
  rfl

end Session

end RangeAudit
