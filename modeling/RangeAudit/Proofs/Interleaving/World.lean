import RangeAudit.Proofs.Outcomes
import RangeAudit.Session.Turn
import RangeAudit.Session.Views

namespace RangeAudit

/-!
# Worlds: a session and the calls on it that are in flight

Calls on a session overlap: while one waits for the engine, turns of others run, and the engine may
answer in any order.  A world is a session with its waiting calls, and a run is a list of moves, so a
statement about all runs is a statement about all interleavings.

* `World.step`, `World.run` — what one move and what a list of moves does;
* `World.Along` — a property of every move of a run, in the world in which it is made;
* `World.run_invariant` — what every allowed move preserves holds after every run of such moves;
* `World.Lasts`, `World.lasts_concat` — what one move of a run brought about and no later move undid;
* `Move.HonestTo`, `World.succeeds` — engines that are deterministic, and moves that bring no fault;
* `World.Driven` — both, with the selection changed only through the session; `World.Driven.replyStep`
  says what an answer then does.

An answer is taken from an oracle at the moment of its delivery.  Each move has an oracle of its own, so
an engine may answer the same query differently, or fail, at different times, unless a property of the
run says otherwise.
-/

/-- The answers of an engine that has read nothing yet from its archive. -/
def Archive.oracle (archive : Archive) : Oracle :=
  fun q => ((Engine.fresh archive).serve q).1

/-- An archive of two contracts with a function each; only the first function was explored. -/
def Archive.ofVaultAndToken : Archive where
  contracts :=
    [{ id := 1, name := "Vault", functions := [{ id := 10, name := "deposit" }] },
      { id := 2, name := "Token", functions := [{ id := 20, name := "mint" }] }]
  analyses :=
    [("Vault", .obj
        [("functions", .arr [.obj [("functionId", .int 10), ("functionName", .str "deposit")]]),
          ("summaries", .arr [.obj [("functionId", .int 10), ("functionName", .str "deposit")]])]),
      ("Token", .obj [])]
  sources :=
    [(1, .obj [("source", .str "contract Vault"), ("lineMap", .arr [.arr [.int 1, .int 0, .int 1]])]),
      (2, .obj [("source", .str "contract Token")]),
      (10, .obj [("source", .str "function deposit")])]
  flowGraphs := [(10, .obj [("blocks", .arr [])])]

/-- The views of a session that are kept. -/
inductive KeptView where
  | risks
  | notes
  | lines
  deriving DecidableEq, Inhabited

/-- A session after one of its kept views was read. -/
def Session.read (s : Session) : KeptView → Session
  | .risks => s.riskMap.2
  | .notes => s.rangeNotes.2
  | .lines => s.marginLines.2

/-- Reading a view changes only what is kept. -/
theorem Session.read_eq (s : Session) (view : KeptView) :
    ∃ memo, s.read view = { s with memo := memo } := by
  cases view <;>
    simp only [Session.read, Session.riskMap, Session.rangeNotes, Session.marginLines] <;>
    split <;>
    exact ⟨_, rfl⟩

@[simp] theorem Session.read_contracts (s : Session) (view : KeptView) :
    (s.read view).contracts = s.contracts := by
  obtain ⟨_, hread⟩ := s.read_eq view
  rw [hread]

/-- Reading a view leaves the selection alone. -/
@[simp] theorem Session.read_selection (s : Session) (view : KeptView) :
    (s.read view).selection = s.selection := by
  obtain ⟨_, hread⟩ := s.read_eq view
  rw [hread]

@[simp] theorem Session.read_loaded (s : Session) (view : KeptView) :
    (s.read view).loaded = s.loaded := by
  obtain ⟨_, hread⟩ := s.read_eq view
  rw [hread]

/-- The call that waits after a turn, if it waits. -/
def Turn.pending : Turn → List Waiting
  | .waiting w => [w]
  | .finished => []
  | .failed _ => []

/-- A session, and the calls on it that wait for the engine, in the order in which they were made. -/
structure World where
  session : Session := {}
  calls : List Waiting := []
  deriving Inhabited

/-- What can happen next. -/
inductive Move where
  /-- A command is given to the session. -/
  | issue (command : Command)
  /-- The session is unloaded. -/
  | unload
  /-- An event is applied to the selection past the session: nothing is fetched. -/
  | navigate (event : NavigationEvent)
  /-- The waiting call at a position gets its answer. -/
  | reply (position : Nat) (oracle : Oracle)
  /-- A background fetch gets its answer. -/
  | deliver (fetch : Fetch) (oracle : Oracle)
  /-- A kept view is read. -/
  | read (view : KeptView)

namespace World

/-- The world after a move.  A call that goes on waiting keeps its place among the calls. -/
def step (w : World) : Move → World
  | .issue command =>
    { session := (w.session.begin command).2
      calls := w.calls ++ (w.session.begin command).1.pending }
  | .unload => { w with session := w.session.unload }
  | .navigate event => { w with session := (w.session.navigate event).1 }
  | .reply k oracle =>
    match w.calls[k]? with
    | some call =>
      { session := (w.session.resume call (oracle call.query)).2
        calls := w.calls.take k ++ (w.session.resume call (oracle call.query)).1.pending
          ++ w.calls.drop (k + 1) }
    | none => w
  | .deliver fetch oracle => { w with session := w.session.settle fetch (oracle fetch.query) }
  | .read view => { w with session := w.session.read view }

/-- The world after a run. -/
def run (w : World) (moves : List Move) : World :=
  moves.foldl step w

/-- A world at whose session nothing has happened yet. -/
def fresh (config : Config) : World :=
  { session := { config := config } }

/-- A world whose session has just loaded contracts. -/
def loaded (config : Config) (contracts : List Contract) : World :=
  { session := { config := config, contracts := some contracts } }

@[simp] theorem run_nil (w : World) : w.run [] = w := rfl

@[simp] theorem run_cons (w : World) (m : Move) (moves : List Move) :
    w.run (m :: moves) = (w.step m).run moves := rfl

/-- A run in two parts. -/
theorem run_append (w : World) (moves more : List Move) :
    w.run (moves ++ more) = (w.run moves).run more :=
  List.foldl_append

/-! ### Properties of runs -/

/-- Every move of a run has a property, in the world in which it is made. -/
def Along (P : World → Move → Prop) : World → List Move → Prop
  | _, [] => True
  | w, m :: moves => P w m ∧ Along P (w.step m) moves

@[simp] theorem along_nil (P : World → Move → Prop) (w : World) : Along P w [] := trivial

@[simp] theorem along_cons (P : World → Move → Prop) (w : World) (m : Move) (moves : List Move) :
    Along P w (m :: moves) ↔ P w m ∧ Along P (w.step m) moves := Iff.rfl

/-- A condition holds along a run if it holds along its parts, the second from where the first has led. -/
theorem along_append (P : World → Move → Prop) (w : World) (moves more : List Move) :
    Along P w (moves ++ more) ↔ Along P w moves ∧ Along P (w.run moves) more := by
  induction moves generalizing w with
  | nil => simp
  | cons m moves ih => simp only [List.cons_append, along_cons, run_cons, ih, and_assoc]

/-- A property that does not look at the world holds along a run if each move has it. -/
theorem along_of_forall {P : Move → Prop} {moves : List Move} (h : ∀ m ∈ moves, P m) (w : World) :
    Along (fun _ m => P m) w moves := by
  induction moves generalizing w with
  | nil => exact along_nil _ w
  | cons m moves ih =>
    refine ⟨h m (by simp), ih ?_ _⟩
    intro m' hm'
    exact h m' (List.mem_cons_of_mem m hm')

/-- What follows from a property of every move, in the world in which it is made, holds along the run. -/
theorem Along.imp {P Q : World → Move → Prop} (hPQ : ∀ w m, P w m → Q w m) {w : World}
    {moves : List Move} (h : Along P w moves) : Along Q w moves := by
  induction moves generalizing w with
  | nil => exact along_nil Q w
  | cons m moves ih => exact ⟨hPQ w m h.1, ih h.2⟩

/-- What follows from a property that holds along a run, whatever the world, holds of each move. -/
theorem Along.forall_mem {P : World → Move → Prop} {Q : Move → Prop} (hPQ : ∀ w m, P w m → Q m)
    {w : World} {moves : List Move} (h : Along P w moves) : ∀ m ∈ moves, Q m := by
  induction moves generalizing w with
  | nil => simp
  | cons m moves ih =>
    intro m' hm'
    rcases List.mem_cons.mp hm' with rfl | hm'
    · exact hPQ w m' h.1
    · exact ih h.2 m' hm'

/-- **Run lemma.** What every allowed move preserves holds after every run of allowed moves. -/
theorem run_invariant {P : World → Move → Prop} (Inv : World → Prop)
    (hstep : ∀ w m, Inv w → P w m → Inv (w.step m)) {w : World} (hw : Inv w)
    {moves : List Move} (hmoves : Along P w moves) : Inv (w.run moves) := by
  induction moves generalizing w with
  | nil => exact hw
  | cons m moves ih => exact ih (hstep w m hw hmoves.1) hmoves.2

/-- Some move of a run brings something about, and all moves after it keep it. -/
def Lasts (brings keeps : World → Move → Prop) (w : World) (moves : List Move) : Prop :=
  ∃ before m after, moves = before ++ m :: after ∧ brings (w.run before) m ∧
    Along keeps ((w.run before).step m) after

/-- Where nothing has happened, nothing came last. -/
theorem not_lasts_nil (brings keeps : World → Move → Prop) (w : World) :
    ¬ w.Lasts brings keeps [] := by
  rintro ⟨before, m, after, hmoves, -⟩
  simp at hmoves

/-- What lasts is brought about by the last move, or lasts before it and is kept by it. -/
theorem lasts_concat (brings keeps : World → Move → Prop) (w : World) (moves : List Move) (m : Move) :
    w.Lasts brings keeps (moves ++ [m]) ↔
      brings (w.run moves) m ∨ (w.Lasts brings keeps moves ∧ keeps (w.run moves) m) := by
  constructor
  · rintro ⟨before, first, after, hmoves, hbrings, halong⟩
    -- The new move is the one that brings it about, or the last of those after it.
    rcases List.eq_nil_or_concat after with rfl | ⟨after, last, rfl⟩
    · obtain ⟨rfl, heq⟩ := List.append_inj' hmoves rfl
      cases heq
      exact .inl hbrings
    · rw [List.concat_eq_append, ← List.cons_append, ← List.append_assoc] at hmoves
      obtain ⟨rfl, heq⟩ := List.append_inj' hmoves rfl
      cases heq
      rw [List.concat_eq_append, along_append] at halong
      refine .inr ⟨⟨before, first, after, rfl, hbrings, halong.1⟩, ?_⟩
      rw [run_append, run_cons]
      exact halong.2.1
  · rintro (hbrings | ⟨⟨before, first, after, rfl, hbrings, halong⟩, hkeeps⟩)
    · exact ⟨moves, m, [], rfl, hbrings, trivial⟩
    · refine ⟨before, first, after ++ [m], by simp, hbrings, ?_⟩
      rw [along_append]
      rw [run_append, run_cons] at hkeeps
      exact ⟨halong, hkeeps, trivial⟩

/-! ### The answer to one of the waiting calls -/

/-- An answer that reaches no call changes nothing. -/
theorem step_reply_none {w : World} {k : Nat} (h : w.calls[k]? = none) (oracle : Oracle) :
    w.step (.reply k oracle) = w := by
  simp only [step, h]

/-- An answer replaces the call that it reaches by what that call waits for next. -/
theorem step_reply_some {w : World} {k : Nat} {call : Waiting} (h : w.calls[k]? = some call)
    (oracle : Oracle) :
    ∃ before after, w.calls = before ++ call :: after ∧
      w.step (.reply k oracle) =
        { session := (w.session.resume call (oracle call.query)).2
          calls := before ++ (w.session.resume call (oracle call.query)).1.pending ++ after } := by
  obtain ⟨hk, hcall⟩ := List.getElem?_eq_some_iff.mp h
  refine ⟨w.calls.take k, w.calls.drop (k + 1), ?_, ?_⟩
  · rw [← hcall, List.getElem_cons_drop, List.take_append_drop]
  · simp only [step, h]

end World

/-! ### Engines -/

namespace Move

/-- The answer that the move brings, if it brings one, is known: an oracle tells only what is known, and
    may fail at any time. -/
def Tells (known : (q : Query) → q.Answer → Prop) : Move → Prop
  | .reply _ oracle => ∀ q v, oracle q = .ok v → known q v
  | .deliver _ oracle => ∀ q v, oracle q = .ok v → known q v
  | _ => True

/-- If everything counts as known, every move tells only what is known. -/
theorem tells_of_true (m : Move) : m.Tells fun _ _ => True := by
  cases m <;> simp [Tells]

/-- The move takes its answer, if it brings one, from a deterministic engine, whose calls may fail at
    any time. -/
def HonestTo (engine : Oracle) (m : Move) : Prop :=
  m.Tells fun q v => engine q = .ok v

/-- Is an event applied past the session? -/
def isDirect : Move → Bool
  | .navigate _ => true
  | _ => false

/-- Does the move load or unload contracts, or begin to? -/
def isReload : Move → Bool
  | .issue .load => true
  | .unload => true
  | _ => false

end Move

namespace World

/-- Does the move bring no fault to a waiting call?  A fault of a background fetch is passed over by the
    session, so it does not count. -/
def succeeds (w : World) : Move → Bool
  | .reply k oracle => (w.calls[k]?).all fun call => (oracle call.query).isOk
  | _ => true

/-- A move of a session that is driven through its own calls, at a deterministic engine whose calls do not
    fail. -/
def Driven (engine : Oracle) (w : World) (m : Move) : Prop :=
  m.HonestTo engine ∧ w.succeeds m = true ∧ m.isDirect = false

/-- How the world can become when an answer comes that is no fault. -/
inductive ReplyStep (w : World) (k : Nat) (w' : World) : Prop
  | unheard (hk : w.calls[k]? = none) (hsame : w' = w)
  /-- The call at the position goes on, and the others go on waiting. -/
  | resumed (call : Waiting) (v : call.query.Answer) (hk : w.calls[k]? = some call)
      (hcall : call ∈ w.calls) (hsession : w'.session = (w.session.resume call (.ok v)).2)
      (hcalls : ∀ c ∈ w'.calls,
        c ∈ w.calls ∨ c ∈ (w.session.resume call (.ok v)).1.pending)
      (hpending : ∀ c ∈ (w.session.resume call (.ok v)).1.pending, c ∈ w'.calls)
      (hothers : ∀ c ∈ w.calls, c = call ∨ c ∈ w'.calls)

/-- **Inversion.** In a driven session an answer reaches no call, or is none but an answer to the call
    that it reaches. -/
theorem Driven.replyStep {engine : Oracle} {w : World} {k : Nat} {oracle : Oracle}
    (h : w.Driven engine (.reply k oracle)) : w.ReplyStep k (w.step (.reply k oracle)) := by
  obtain ⟨-, hsucceeds, -⟩ := h
  cases hk : w.calls[k]? with
  | none => exact .unheard hk (step_reply_none hk oracle)
  | some call =>
    obtain ⟨before, after, hcalls, hstep⟩ := step_reply_some hk oracle
    simp only [succeeds, hk, Option.all_some] at hsucceeds
    cases hanswer : oracle call.query with
    | error fault => rw [hanswer] at hsucceeds; cases hsucceeds
    | ok v =>
      rw [hanswer] at hstep
      -- The call keeps its place, so the calls before and after it are the others.
      refine .resumed call v hk (List.mem_of_getElem? hk) ?_ ?_ ?_ ?_
      · rw [hstep]
      · intro c hc
        simp only [hstep, List.append_assoc, List.mem_append] at hc
        rw [hcalls]
        rcases hc with hc | hc | hc
        · exact .inl (List.mem_append_left _ hc)
        · exact .inr hc
        · exact .inl (List.mem_append_right _ (List.mem_cons_of_mem _ hc))
      · intro c hc
        simp [hstep, hc]
      · intro c hc
        rw [hcalls, List.mem_append, List.mem_cons] at hc
        rcases hc with hc | rfl | hc
        · exact .inr (by simp [hstep, hc])
        · exact .inl rfl
        · exact .inr (by simp [hstep, hc])

end World

end RangeAudit
