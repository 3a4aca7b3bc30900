import RangeAudit.Proofs.Interleaving.EventLoop
import RangeAudit.Proofs.Interleaving.Unloading

namespace RangeAudit

/-!
# Unloading fences off the background tasks

A task is kept track of from its creation until it has ended or was cancelled, so an unloading reaches every task
that could still write something, and asks it to stop: a task that has not begun, one that waits for the engine,
and one whose answer has come but that has not gone on.  The next turn of such a task ends it.  Tasks are told
apart by their numbers, which are given out once, so an old task is not taken for a new one that fetches the same
data of the same function.

* `World.unloads` — the ticks that unload the session: loading does, when the contracts come;
* `Session.Fenced`, `World.fenced_elapse` — after an unloading no old task goes on, and none is kept track of;
* `Session.runTask_of_not_isLive` and its siblings — what can still happen to such a task changes nothing but the
  task itself;
* `World.unloading_fences_tasks` — hence a task that was created before an unloading writes nothing afterwards,
  however far it was and whatever is done in between.
-/

namespace Session

variable {known : (q : Query) → q.Answer → Prop} {s t : Session} {bound ticket : Nat} {task : Task}

/-! ### Tasks that do not go on -/

/-- A task in its own place. -/
theorem putTask_self (htask : s.tasks[ticket]? = some task) : s.putTask ticket task = s := by
  obtain ⟨hlt, rfl⟩ := List.getElem?_eq_some_iff.mp htask
  rw [putTask, List.set_getElem_self]

/-- The turn of a task that was asked to stop ends it, and does nothing else. -/
theorem runTask_of_not_isLive (htask : s.tasks[ticket]? = some task) (hlive : task.isLive = false) :
    ∃ next : Task, next.isDone = true ∧ s.runTask ticket = s.putTask ticket next := by
  rw [runTask, htask]
  dsimp only
  by_cases hdone : task.isDone = true
  · rw [if_pos hdone]
    exact ⟨task, hdone, (putTask_self htask).symm⟩
  · rw [if_neg hdone]
    -- It has not ended and will not go on, so it was asked to stop.
    have hcancel : task.cancelRequested = true := by
      simpa [Task.isLive, hdone] using hlive
    rw [if_pos hcancel]
    exact ⟨{ task with phase := .cancelled }, rfl, rfl⟩

/-- A task that will not go on hears no answer. -/
theorem hear_of_not_isLive (htask : s.tasks[ticket]? = some task) (hlive : task.isLive = false)
    (answers : Oracle) : s.hear ticket answers = s := by
  have hwaiting : ¬ task.isWaiting = true := by
    intro hwaiting
    rw [Task.isLive_of_isWaiting hwaiting] at hlive
    cases hlive
  rw [hear, htask]
  dsimp only
  rw [Task.hear, if_neg hwaiting, putTask_self htask]

/-- Of a task that is not kept track of, the session cannot lose track. -/
theorem discard_of_not_mem (htask : s.tasks[ticket]? = some task) (hout : task.fetch ∉ s.fetches) :
    s.discard ticket = s := by
  rw [discard, htask]
  dsimp only
  split
  · rw [List.erase_of_not_mem hout]
  · rfl

/-! ### Fences -/

/-- No task with a number below the bound will go on, none is kept track of, and none will be created. -/
structure Fenced (bound : Nat) (s : Session) : Prop where
  quiet : s.EveryTask fun k task => k < bound → task.isLive = false
  out : ∀ f ∈ s.fetches, bound ≤ f.ticket
  next : bound ≤ s.nextTicket

/-- A task that will not go on is not set going again. -/
theorem lasting_quiet (known : (q : Query) → q.Answer → Prop) (bound : Nat) :
    Lasting known fun k task => k < bound → task.isLive = false where
  cancel _ _ _ _ := Task.isLive_cancel
  stop _ _ _ _ := rfl
  start _ _ hlive h hk := absurd (h hk) (by simp [hlive])
  hear _ _ _ _ h hk := (Task.isLive_hear _).trans (h hk)
  finish _ _ _ _ := rfl

/-- An unloaded session is fenced off from all tasks before. -/
theorem Supervised.fenced_unload (h : s.Supervised) : s.unload.Fenced s.nextTicket where
  quiet := h.not_isLive_unload.imp fun _ _ hstopped _ => hstopped
  out _ hf := absurd hf List.not_mem_nil
  next := by
    have hlength : s.unload.nextTicket = s.nextTicket := by
      rw [nextTicket, Session.unload, List.length_map, nextTicket]
    exact Nat.le_of_eq hlength.symm

/-- **Step lemma.** Every change of a session keeps the fence: a new task has a number that is not below the
    bound. -/
theorem Change.fenced (hchange : Change known s t) (h : s.Fenced bound) : t.Fenced bound := by
  -- No change revives a dead task, and a new one gets a ticket that is not below the bound.
  have hquiet : t.EveryTask fun k task => k < bound → task.isLive = false :=
    hchange.everyTask (lasting_quiet known bound)
      (fun _ _ hlt => absurd (Nat.lt_of_lt_of_le hlt h.next) (Nat.lt_irrefl _)) h.quiet
  cases hchange with
  -- What is left are the tickets: only `spawn` sends a fetch, only `unload` and `close` withdraw one.
  | spawn aim functionId =>
    refine ⟨hquiet, fun f hf => ?_, ?_⟩
    · rcases List.mem_append.mp hf with hold | hnew
      · exact h.out f hold
      · rw [List.mem_singleton.mp hnew]
        exact h.next
    · rw [nextTicket, Session.spawn, List.length_append]
      exact Nat.le_add_right_of_le h.next
  | unload =>
    refine ⟨hquiet, fun f hf => absurd hf List.not_mem_nil, ?_⟩
    rw [nextTicket, Session.unload, List.length_map]
    exact h.next
  | close f =>
    refine ⟨hquiet, fun g hg => h.out g (List.mem_of_mem_erase hg), ?_⟩
    rw [nextTicket, Session.close, List.length_modify]
    exact h.next
  | read view =>
    obtain ⟨_, hread⟩ := s.read_eq view
    rw [hread] at hquiet ⊢
    exact ⟨hquiet, h.out, h.next⟩
  | navigate | present | useAnalysis | enter | keepFlowGraph | keepDetail => exact ⟨hquiet, h.out, h.next⟩

/-- Behind the fence, a task has ended or was asked to stop. -/
theorem Fenced.exists_task (h : s.Fenced bound) (hk : ticket < bound) :
    ∃ task : Task, s.tasks[ticket]? = some task ∧ task.isLive = false := by
  have hlt : ticket < s.tasks.length := Nat.lt_of_lt_of_le hk h.next
  exact ⟨s.tasks[ticket], List.getElem?_eq_getElem hlt, h.quiet _ _ (List.getElem?_eq_getElem hlt) hk⟩

end Session

namespace World

variable {w : World} {t : Tick} {bound : Nat}

/-- Does the tick unload the session?  Loading does, when the contracts come. -/
def unloads (w : World) : Tick → Bool
  | .move m _ => m.isUnload || w.bringsContracts m
  | .turn _ | .hear _ _ | .discard _ => false

/-- A tick that unloads the session leaves contracts at most. -/
theorem session_tick_of_unloads (h : w.unloads t = true) :
    ∃ contracts, (w.tick t).session = { w.session.unload with contracts := contracts } := by
  cases t with
  | turn | hear | discard => cases h
  | move m hm =>
    cases m with
    | unload => exact ⟨none, rfl⟩
    | reply k oracle =>
      simp only [unloads, Move.isUnload, Bool.false_or, bringsContracts] at h
      split at h
      · rename_i hk
        obtain ⟨contracts, hcontracts⟩ := Except.isOk_iff_exists_eq_ok.mp h
        refine ⟨some contracts, ?_⟩
        simp only [tick, step, hk, hcontracts]
        rfl
      · cases h
    | issue | navigate | deliver | read => cases h

/-- An unloading puts up a fence. -/
theorem fenced_of_unloads (hs : w.session.Supervised) (h : w.unloads t = true) :
    (w.tick t).session.Fenced w.session.nextTicket := by
  obtain ⟨contracts, htick⟩ := session_tick_of_unloads h
  obtain ⟨hquiet, hout, hnext⟩ := hs.fenced_unload
  rw [htick]
  exact ⟨hquiet, hout, hnext⟩

/-- **Step lemma.** Every tick keeps the fence. -/
theorem fenced_tick (w : World) (t : Tick) (h : w.session.Fenced bound) : (w.tick t).session.Fenced bound := by
  cases t with
  | move m => exact (changes_step w m m.tells_of_true).preserve (fun hchange => hchange.fenced) h
  | turn ticket =>
    refine ⟨h.quiet.runTask (Session.lasting_quiet (fun _ _ => True) bound) ticket, ?_, ?_⟩
    · rw [tick, Session.runTask_fetches]
      exact h.out
    · rw [tick, Session.runTask_nextTicket]
      exact h.next
  | hear ticket answers =>
    refine ⟨h.quiet.hear (Session.lasting_quiet (fun _ _ => True) bound) ticket fun _ _ _ => trivial, ?_, ?_⟩
    · rw [tick, Session.hear_fetches]
      exact h.out
    · rw [tick, Session.hear_nextTicket]
      exact h.next
  -- The done callback takes a fetch out, so the others keep their tickets.
  | discard ticket =>
    simp only [tick, Session.discard]
    split
    · exact h
    · split
      · exact ⟨h.quiet, fun f hf => h.out f (List.mem_of_mem_erase hf), h.next⟩
      · exact h

/-- **Run lemma.** Every course of ticks keeps the fence. -/
theorem fenced_elapse (h : w.session.Fenced bound) (ticks : List Tick) :
    (w.elapse ticks).session.Fenced bound :=
  elapse_invariant (fun _ _ => True) (fun w => w.session.Fenced bound) (fun w t hw _ => fenced_tick w t hw) h
    fun t _ => t.tells_of_true

/-- Behind a fence, what happens to a task changes nothing but the task. -/
theorem tick_of_fenced (hs : w.session.Supervised) (h : w.session.Fenced bound) {ticket : Nat}
    (hk : ticket < bound) (ht : t.ticket? = some ticket) :
    ∃ next, w.tick t = { w with session := w.session.putTask ticket next } := by
  -- The task below the bound is dead: each tick aimed at it ends by writing back a task of its ticket.
  obtain ⟨task, htask, hlive⟩ := h.exists_task hk
  cases t with
  | move => cases ht
  | turn k =>
    cases ht
    obtain ⟨next, -, hturn⟩ := Session.runTask_of_not_isLive htask hlive
    exact ⟨next, congrArg (fun s => { w with session := s }) hturn⟩
  | hear k answers =>
    cases ht
    refine ⟨task, ?_⟩
    rw [tick, Session.hear_of_not_isLive htask hlive, Session.putTask_self htask]
  | discard k =>
    cases ht
    -- Its fetch was withdrawn with it, so there is nothing left to discard.
    have hout : task.fetch ∉ w.session.fetches := by
      intro hmem
      have hticket := h.out _ hmem
      rw [hs.numbered ticket task htask] at hticket
      omega
    refine ⟨task, ?_⟩
    rw [tick, Session.discard_of_not_mem htask hout, Session.putTask_self htask]

/-- A task is fenced off: it has ended, or was asked to stop; its next turn ends it; and neither a turn of it nor an
    answer to it nor the note that it has ended changes anything but the task itself, so no data of a function
    and no view that is kept. -/
structure FencedOff (ticket : Nat) (w : World) : Prop where
  stopped : ∃ task : Task, w.session.tasks[ticket]? = some task ∧
    (task.isDone = true ∨ task.cancelRequested = true)
  ends : ∃ task : Task, (w.tick (.turn ticket)).session.tasks[ticket]? = some task ∧ task.isDone = true
  silent : ∀ t : Tick, t.ticket? = some ticket →
    ∃ next : Task, w.tick t = { w with session := w.session.putTask ticket next }

/-- Behind the fence are all tasks with lower numbers. -/
theorem fencedOff_of_fenced (hs : w.session.Supervised) (h : w.session.Fenced bound) {ticket : Nat}
    (hk : ticket < bound) : w.FencedOff ticket := by
  obtain ⟨task, htask, hlive⟩ := h.exists_task hk
  refine ⟨⟨task, htask, Task.isLive_eq_false_iff.mp hlive⟩, ?_, fun t ht => tick_of_fenced hs h hk ht⟩
  obtain ⟨next, hdone, hturn⟩ := Session.runTask_of_not_isLive htask hlive
  refine ⟨next, ?_, hdone⟩
  rw [tick, hturn]
  exact List.getElem?_set_self (List.getElem?_eq_some_iff.mp htask).1

/-- **Unloading fences off the background tasks.** Take any course of events in a fresh session, in which tasks
    begin, are answered, go on and end at any time.  Every task that has been created has ended, or was asked to
    stop, or is kept track of.  If the session is unloaded then, by itself or by loading contracts, every task that
    was created before is fenced off, and remains so whatever happens afterwards, be it that contracts are loaded
    and the same function is selected again. -/
theorem unloading_fences_tasks (config : Config) (before : List Tick) :
    (∀ task ∈ ((fresh config).elapse before).session.tasks,
      task.isDone = true ∨ task.cancelRequested = true ∨
        task.fetch ∈ ((fresh config).elapse before).session.fetches) ∧
    ∀ t : Tick, ((fresh config).elapse before).unloads t = true → ∀ after : List Tick,
      ∀ k < ((fresh config).elapse before).session.tasks.length,
        ((fresh config).elapse (before ++ t :: after)).FencedOff k := by
  have hsupervised := supervised_elapse config before
  constructor
  · intro task htask
    obtain ⟨k, htask⟩ := List.mem_iff_getElem?.mp htask
    cases hlive : task.isLive with
    | false => exact or_assoc.mp (.inl (Task.isLive_eq_false_iff.mp hlive))
    | true => exact .inr (.inr (hsupervised.tracked k task htask hlive))
  · intro t hunloads after k hk
    refine fencedOff_of_fenced (supervised_elapse config _) ?_ hk
    -- The fence is the number of tasks that had been created when the session was unloaded.
    rw [elapse_append, elapse_cons]
    exact fenced_elapse (fenced_of_unloads hsupervised hunloads) after

/-- A function is selected.  Of the tasks that fetch its data, one has its answer, and the other has not begun; and
    contracts are sent for once more. -/
def answeredAtDeposit : List Tick :=
  let engine := Archive.ofVaultAndToken.oracle
  [.move (.issue .load) rfl, .move (.reply 0 engine) rfl,
    .move (.issue (.dispatch (.selectFunction 10 none))) rfl, .move (.reply 0 engine) rfl,
    .move (.reply 0 engine) rfl, .turn 0, .hear 0 engine, .move (.issue .load) rfl]

/-- After the contracts have come once more, the same function is selected. -/
def selectedAgain : List Tick :=
  let engine := Archive.ofVaultAndToken.oracle
  [.move (.issue (.dispatch (.selectFunction 10 none))) rfl, .move (.reply 0 engine) rfl,
    .move (.reply 0 engine) rfl]

/-- The answer came before the session was unloaded, and the function is selected again; but the task that has the
    answer writes nothing. -/
theorem unloading_fences_tasks_of_reload :
    ((fresh {}).elapse answeredAtDeposit).unloads (.move (.reply 0 Archive.ofVaultAndToken.oracle) rfl) = true ∧
      0 < ((fresh {}).elapse answeredAtDeposit).session.tasks.length ∧
      ((fresh {}).elapse (answeredAtDeposit ++
        .move (.reply 0 Archive.ofVaultAndToken.oracle) rfl :: selectedAgain)).FencedOff 0 := by
  have hunloads : ((fresh {}).elapse answeredAtDeposit).unloads
      (.move (.reply 0 Archive.ofVaultAndToken.oracle) rfl) = true := by
    decide +kernel
  have hcreated : 0 < ((fresh {}).elapse answeredAtDeposit).session.tasks.length := by
    decide +kernel
  exact ⟨hunloads, hcreated,
    (unloading_fences_tasks {} answeredAtDeposit).2 _ hunloads selectedAgain 0 hcreated⟩

-- Without the unloading, the next turn of the same task keeps its answer.
example :
    (((fresh {}).elapse answeredAtDeposit).tick (.turn 0)).session.flowGraphs.keys = [10] := by
  decide +kernel

end World

end RangeAudit
