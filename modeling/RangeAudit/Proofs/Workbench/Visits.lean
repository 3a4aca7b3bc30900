import RangeAudit.Proofs.Archive.Recall
import RangeAudit.Proofs.Interleaving.Tasks
import RangeAudit.Proofs.Session.AtRest

namespace RangeAudit

/-!
# Visits to a workbench

At a workbench where nothing is held, calls in the foreground do not overlap, and the queue holds the fetches
that a call has sent out.  Such a workbench does what its session does at an engine that has read nothing yet
(`Session.called`, `Session.settled`).

* `Workbench.AtRest` — nothing is under way, and what the engine keeps is what its archive answers;
* `drive_eq_completed` — the turns of a call;
* `Workbench.AtRest.dispatch`, `Workbench.settle_eq_settled` — an event, and what it has sent out;
* `Workbench.AtRest.visit` — hence the workbench is at rest again after both.
-/

variable {archive : Archive}

/-- The turns of a call at a workbench are those at an engine that has read nothing yet. -/
theorem drive_eq_completed {e : Engine} (h : e.Recalls archive) (s : Session) (turn : Turn) :
    ∃ e', e'.Recalls archive ∧
      ((drive [] e s turn = (.finished, e', (s.completed archive.oracle turn).2) ∧
          (s.completed archive.oracle turn).1 = .ok ()) ∨
        ∃ fault, drive [] e s turn = (.failed fault, e', (s.completed archive.oracle turn).2) ∧
          (s.completed archive.oracle turn).1 = .error fault) := by
  -- The induction is on the turns that are left; at each of them the engine has read a little more.
  induction s, turn using Session.completed.induct archive.oracle generalizing e with
  | case1 s => exact ⟨e, h, .inl (by simp [drive])⟩
  | case2 s fault => exact ⟨e, h, .inr ⟨fault, by simp [drive]⟩⟩
  | case3 s w next =>
    rename_i ih
    have hdrive : drive [] e s (.waiting w) = drive [] (e.serve w.query).2
        (s.resume w (archive.oracle w.query)).2 (s.resume w (archive.oracle w.query)).1 := by
      rw [drive, if_neg List.not_mem_nil, ← h.serve_fst w.query]
    rw [hdrive, Session.completed_waiting]
    exact ih (h.serve w.query).2

namespace Workbench

variable {b : Workbench}

/-- A call in the foreground is a call of the session; what it has sent out is queued. -/
theorem call_eq_called (h : b.engine.Recalls archive) (command : Command) :
    ∃ e, e.Recalls archive ∧
      b.call command = ((b.session.called archive.oracle command).1,
        b.advance e (b.session.called archive.oracle command).2) := by
  obtain ⟨e, he, ⟨hdrive, hok⟩ | ⟨fault, hdrive, herror⟩⟩ :=
    drive_eq_completed h (b.session.begin command).2 (b.session.begin command).1
  · refine ⟨e, he, ?_⟩
    simp only [call, hdrive, Session.called, hok]
  · refine ⟨e, he, ?_⟩
    simp only [call, hdrive, Session.called, herror]

/-- The job of a fetch that is out is all that happens to its task: nothing is held, so the task is answered at
    once. -/
theorem runJob_fetch (h : b.engine.Recalls archive) (hheld : b.held = []) (htallied : b.session.Tallied)
    {f : Fetch} (hf : f ∈ b.session.fetches) :
    ∃ e, e.Recalls archive ∧
      b.runJob (.fetch f) =
        { b with engine := e, session := b.session.settle f (archive.oracle f.query) } := by
  have htask := htallied.tasks f hf
  refine ⟨_, (h.serve f.query).2, ?_⟩
  have hanswer : (b.engine.serveAs (b.engine.plantedIn f.query.method) f.query).1 = archive.oracle f.query :=
    h.serve_fst f.query
  -- The task is started and answered at once, which is settling its fetch.
  have hsession : (b.session.runTask f.ticket).attend f.ticket
      (fun query => (b.engine.serveAs (b.engine.plantedIn f.query.method) query).1) =
        b.session.settle f (archive.oracle f.query) := by
    rw [Session.attend_runTask hf htask, hanswer]
  simp only [runJob, runFetch, hheld, List.not_mem_nil, and_false, if_false, finishFetch,
    Session.isWaiting_runTask htask, if_true, hsession]
  rfl

/-- **Run lemma.** The jobs of all fetches that are out are their turns. -/
theorem foldl_runJob (h : b.engine.Recalls archive) (hheld : b.held = []) (htallied : b.session.Tallied) :
    ∃ e, e.Recalls archive ∧
      (b.session.fetches.map Job.fetch).foldl runJob b =
        { b with engine := e, session := b.session.settled archive.oracle } := by
  induction hout : b.session.fetches generalizing b with
  | nil =>
    refine ⟨b.engine, h, ?_⟩
    rw [Session.settled_of_idle hout]
    rfl
  | cons f rest ih =>
    have hf : f ∈ b.session.fetches := by
      rw [hout]
      exact List.mem_cons_self
    obtain ⟨e, he, hjob⟩ := runJob_fetch h hheld htallied hf
    -- A task sends out nothing, so the rest of the queue is what is still out.
    have hrest : (b.session.settle f (archive.oracle f.query)).fetches = rest := by
      rw [Session.settle_fetches, hout, List.erase_cons_head]
    have hsettle : Session.Changes (fun q v => archive.oracle q = .ok v) b.session
        (b.session.settle f (archive.oracle f.query)) :=
      Session.changes_settle b.session f _ fun _ hv => hv
    rw [List.map_cons, List.foldl_cons, hjob, Session.settled_cons hout]
    exact ih (b := { b with engine := e, session := b.session.settle f (archive.oracle f.query) })
      he hheld (hsettle.tallied htallied) hrest

/-- Settling lets everything come that is out, if this is what is queued. -/
theorem settle_eq_settled (h : b.engine.Recalls archive) (hheld : b.held = []) (hparked : b.parked = [])
    (hqueue : b.queue = b.session.fetches.map Job.fetch) (htallied : b.session.Tallied) :
    ∃ e, e.Recalls archive ∧
      b.settle = { b with engine := e, session := b.session.settled archive.oracle, queue := [] } := by
  obtain ⟨e, he, hrun⟩ := foldl_runJob (b := { b with held := [], parked := [], queue := [] }) h rfl htallied
  refine ⟨e, he, ?_⟩
  -- No answer is held back, so one round over the queue delivers all of them.
  have hqueued : runQueued { b with held := [], parked := [] } =
      { b with
        engine := e
        session := b.session.settled archive.oracle
        held := []
        queue := []
        parked := [] } := by
    rw [runQueued, hqueue, hrun]
  rw [settle, hqueued, hparked, hheld]
  rfl

/-- Nothing is under way, and what the engine keeps is what its archive answers. -/
structure AtRest (archive : Archive) (b : Workbench) : Prop where
  engine : b.engine.Recalls archive
  session : b.session.AtRest archive.oracle archive.contracts
  held : b.held = []
  queue : b.queue = []
  parked : b.parked = []

namespace AtRest

/-- Everything that a dispatched event has sent out is queued. -/
theorem dispatch (h : b.AtRest archive) (event : NavigationEvent) :
    ∃ e, e.Recalls archive ∧
      b.dispatch event = ((b.session.called archive.oracle (.dispatch event)).1,
        { b with
          engine := e
          session := (b.session.called archive.oracle (.dispatch event)).2
          queue := (b.session.called archive.oracle (.dispatch event)).2.fetches.map Job.fetch }) := by
  obtain ⟨e, he, hcall⟩ := call_eq_called h.engine (.dispatch event)
  refine ⟨e, he, hcall.trans ?_⟩
  -- The session was idle, so every fetch that is out was sent by this visit.
  have hsent : ((b.session.called archive.oracle (.dispatch event)).2.fetches.filter fun f =>
      b.session.nextTicket ≤ f.ticket) =
        (b.session.called archive.oracle (.dispatch event)).2.fetches := by
    rw [List.filter_eq_self]
    intro f hf
    simpa using Session.ticket_called h.session.contracts h.session.idle event f hf
  rw [advance, hsent, h.queue, List.nil_append]

/-- **Step lemma.** After an event has been dispatched and everything that it has sent out has come, a workbench
    is at rest again, and its session is what it is at an engine that has read nothing yet. -/
theorem visit (h : b.AtRest archive) (event : NavigationEvent) :
    (b.dispatch event).1 = (b.session.called archive.oracle (.dispatch event)).1 ∧
      (b.dispatch event).2.settle.session =
        (b.session.called archive.oracle (.dispatch event)).2.settled archive.oracle ∧
      (b.dispatch event).2.settle.AtRest archive := by
  obtain ⟨e, he, hdispatch⟩ := h.dispatch event
  rw [hdispatch]
  refine ⟨rfl, ?_⟩
  obtain ⟨e', he', hsettle⟩ := settle_eq_settled (b := { b with
      engine := e
      session := (b.session.called archive.oracle (.dispatch event)).2
      queue := (b.session.called archive.oracle (.dispatch event)).2.fetches.map Job.fetch })
    he h.held h.parked rfl
    ((Session.changes_called archive.oracle b.session (.dispatch event)).tallied
      (Session.tallied_of_idle h.session.idle))
  rw [hsettle]
  exact ⟨rfl, ⟨he', h.session.visited event, h.held, rfl, h.parked⟩⟩

/-- Reading a view leaves a workbench at rest. -/
theorem read (h : b.AtRest archive) (view : KeptView) :
    ({ b with session := b.session.read view } : Workbench).AtRest archive :=
  ⟨h.engine, h.session.read view, h.held, h.queue, h.parked⟩

end AtRest

/-- Nothing is under way, whether contracts are loaded or not. -/
structure Idle (archive : Archive) (b : Workbench) : Prop where
  engine : b.engine.Recalls archive
  undrilled : b.session.planted = []
  fetches : b.session.fetches = []
  held : b.held = []
  queue : b.queue = []
  parked : b.parked = []

/-- A workbench at rest is idle. -/
theorem AtRest.idle (h : b.AtRest archive) : b.Idle archive :=
  ⟨h.engine, h.session.undrilled, h.session.idle, h.held, h.queue, h.parked⟩

/-- A fresh workbench is idle. -/
theorem idle_fresh (archive : Archive) (config : Config) :
    (fresh (Engine.fresh archive) config).Idle archive :=
  ⟨Engine.recalls_fresh archive, rfl, rfl, rfl, rfl, rfl⟩

/-- An idle workbench is idle when it was unloaded. -/
theorem Idle.unload (h : b.Idle archive) : b.unload.Idle archive :=
  ⟨h.engine, h.undrilled, rfl, h.held, h.queue, h.parked⟩

/-- Reading a view leaves a workbench idle. -/
theorem Idle.read (h : b.Idle archive) (view : KeptView) :
    ({ b with session := b.session.read view } : Workbench).Idle archive := by
  obtain ⟨_, hread⟩ := b.session.read_eq view
  rw [hread]
  exact ⟨h.engine, h.undrilled, h.fetches, h.held, h.queue, h.parked⟩

/-- An idle workbench is at rest when the contracts have been loaded. -/
theorem Idle.load (h : b.Idle archive) :
    b.load.1 = .ok () ∧
      b.load.2.session = { b.session.unload with contracts := some archive.contracts } ∧
      b.load.2.AtRest archive := by
  obtain ⟨e, he, hcall⟩ := call_eq_called h.engine .load
  have hcalled : b.session.called archive.oracle .load =
      (.ok (), { b.session.unload with contracts := some archive.contracts }) := by
    rw [Session.called, Session.begin, archive.oracle_eq_answer]
    dsimp only
    rw [Session.completed_waiting]
    exact Session.completed_finished _ _
  rw [Workbench.load, hcall, hcalled]
  -- Nothing is out after the unloading, so nothing is queued.
  have hqueue : (b.advance e { b.session.unload with contracts := some archive.contracts }).queue = [] := by
    simp [advance, Session.unload, h.queue]
  exact ⟨rfl, rfl, ⟨he, Session.AtRest.entered _ _ h.undrilled, h.held, hqueue, h.parked⟩⟩

/-- A fresh workbench is at rest when the contracts are loaded. -/
theorem atRest_load (archive : Archive) (config : Config) :
    (fresh (Engine.fresh archive) config).load.1 = .ok () ∧
      (fresh (Engine.fresh archive) config).load.2.AtRest archive ∧
      (fresh (Engine.fresh archive) config).load.2.session.config = config := by
  obtain ⟨hok, hsession, hrest⟩ := (idle_fresh archive config).load
  exact ⟨hok, hrest, by rw [hsession]; rfl⟩

end Workbench

end RangeAudit
