import RangeAudit.Proofs.Interleaving.Turns
import RangeAudit.Session.Workbench

namespace RangeAudit

/-!
# One call after the other

If calls do not overlap and the engine answers at once, the turns of a call can be taken together.  What a
dispatched event comes to is then said in one equation for each kind of event, and what it sends out comes
afterwards, in the order in which it was sent.

* `Session.called` — a call that runs to its end;
* `Session.called_contract`, `Session.called_function`, `Session.called_steer` — what it comes to;
* `Session.settled` — everything that is out has come;
* `Session.received_settle` — all ways in which a fetch can come;
* `Session.settled_invariant`, `Session.settled_eq` — what the fetches keep, and what they can change;
* `Session.settled_sentFor` — what the fetches for the selected function bring.
-/

/-- Take over an answer; what failed changes nothing. -/
def Entries.putAnswer {κ ν : Type} [DecidableEq κ] (entries : Entries κ ν) (key : κ)
    (answer : Except Fault ν) : Entries κ ν :=
  match answer with
  | .ok value => entries.put key value
  | .error _ => entries

/-- If all entries are answers, then what is found under a key after its answer was taken over is the answer:
    what failed was not there before. -/
theorem Entries.find?_putAnswer {κ ν : Type} [DecidableEq κ] {entries : Entries κ ν}
    (answers : κ → Except Fault ν) (h : ∀ entry ∈ entries, answers entry.1 = .ok entry.2) (key : κ) :
    (entries.putAnswer key (answers key)).find? key = (answers key).toOption := by
  cases hanswer : answers key with
  | ok value => exact Entries.find?_put_self ..
  | error fault =>
    cases hfind : entries.find? key with
    | none => exact hfind
    | some value =>
      have hvalue : answers key = .ok value := h _ (Entries.mem_of_find? hfind)
      rw [hanswer] at hvalue
      cases hvalue

namespace Session

variable {engine : Oracle} {s t : Session}

/-! ### Calls -/

/-- The turns of a call, until it is finished or has failed. -/
def completed (engine : Oracle) (s : Session) (turn : Turn) : Outcome × Session :=
  match turn with
  | .finished => (.ok (), s)
  | .failed fault => (.error fault, s)
  | .waiting w =>
    let next := s.resume w (engine w.query)
    completed engine next.2 next.1
termination_by turn.depth
decreasing_by exact Session.depth_resume _ _ _

/-- A call that runs to its end. -/
def called (engine : Oracle) (s : Session) (command : Command) : Outcome × Session :=
  completed engine (s.begin command).2 (s.begin command).1

/-- A call that is finished has no further turns. -/
@[simp] theorem completed_finished (engine : Oracle) (s : Session) :
    completed engine s .finished = (.ok (), s) := by
  rw [completed]

/-- A call that has failed leaves the state as it is. -/
@[simp] theorem completed_failed (engine : Oracle) (s : Session) (fault : Fault) :
    completed engine s (.failed fault) = (.error fault, s) := by
  rw [completed]

/-- A call that waits goes on with the engine's answer. -/
theorem completed_waiting (engine : Oracle) (s : Session) (w : Waiting) :
    completed engine s (.waiting w) =
      completed engine (s.resume w (engine w.query)).2 (s.resume w (engine w.query)).1 := by
  rw [completed]

/-- Use the analysis of a contract, if it must be fetched. -/
def analysed (engine : Oracle) (s : Session) (c : Contract) : Except Fault Session :=
  if s.needsAnalysis c then (engine (.analysis c.name)).map (s.useAnalysis c.name) else .ok s

/-- Send out what is fetched for a function beside its source. -/
def sentFor (s : Session) (functionId : Int) : Session :=
  if s.hasSummary functionId then (s.spawn .flowGraph functionId).spawn .detail functionId
  else s.spawn .flowGraph functionId

/-- The control-flow graph is always sent for, the detailed paths only if the function has a summary. -/
theorem sentFor_cases (s : Session) (functionId : Int) :
    (s.hasSummary functionId = true ∧ s.sentFor functionId =
      { s with
        tasks := s.tasks ++ [.ofFetch ⟨s.nextTicket, .flowGraph, functionId⟩,
          .ofFetch ⟨s.nextTicket + 1, .detail, functionId⟩]
        fetches := s.fetches ++ [⟨s.nextTicket, .flowGraph, functionId⟩,
          ⟨s.nextTicket + 1, .detail, functionId⟩] }) ∨
    (s.hasSummary functionId = false ∧ s.sentFor functionId =
      { s with
        tasks := s.tasks ++ [.ofFetch ⟨s.nextTicket, .flowGraph, functionId⟩]
        fetches := s.fetches ++ [⟨s.nextTicket, .flowGraph, functionId⟩] }) := by
  unfold sentFor
  split
  · rename_i hsummary
    refine .inl ⟨hsummary, ?_⟩
    simp only [spawn, nextTicket, List.length_append, List.length_singleton, List.append_assoc,
      List.cons_append, List.nil_append]
  · rename_i hsummary
    exact .inr ⟨by simpa using hsummary, rfl⟩

/-- Sending out fetches leaves the selection alone. -/
@[simp] theorem sentFor_selection (s : Session) (functionId : Int) :
    (s.sentFor functionId).selection = s.selection := by
  unfold sentFor
  split <;> rfl

@[simp] theorem sentFor_loaded (s : Session) (functionId : Int) :
    (s.sentFor functionId).loaded = s.loaded := by
  unfold sentFor
  split <;> rfl

/-- Nor does it change what is displayed. -/
@[simp] theorem sentFor_display (s : Session) (functionId : Int) :
    (s.sentFor functionId).display = s.display := by
  unfold sentFor
  split <;> rfl

/-- Select a function of an owner, and display its source. -/
def opened (engine : Oracle) (s : Session) (owner : Option Contract) (functionId : Int) :
    Outcome × Session :=
  let s := { s with selection := s.selection.atFunction functionId (owner.map Contract.id) }
  match engine (.source functionId) with
  | .error fault => (.error fault, s)
  | .ok source => (.ok (), (s.present (some functionId) source).sentFor functionId)

/-- A function that is opened is selected, also if its source cannot be had. -/
@[simp] theorem opened_selection (engine : Oracle) (s : Session) (owner : Option Contract)
    (functionId : Int) : (s.opened engine owner functionId).2.selection =
      s.selection.atFunction functionId (owner.map Contract.id) := by
  unfold opened
  split
  · rfl
  · exact sentFor_selection _ functionId

/-- The analysis that is in use stays in use. -/
@[simp] theorem opened_loaded (engine : Oracle) (s : Session) (owner : Option Contract)
    (functionId : Int) : (s.opened engine owner functionId).2.loaded = s.loaded := by
  unfold opened
  split
  · rfl
  · exact sentFor_loaded _ functionId

/-- Select a contract. -/
def atContract (s : Session) (id : Int) : Session :=
  { s with selection := { contractId := some id } }

/-- Display the source of a contract that was selected. -/
def entered (engine : Oracle) (s : Session) (id : Int) : Outcome × Session :=
  match engine (.source id) with
  | .error fault => (.error fault, s)
  | .ok source => (.ok (), s.present (some id) source)

/-- When the source of a contract comes, the selection has been made before. -/
@[simp] theorem entered_selection (engine : Oracle) (s : Session) (id : Int) :
    (s.entered engine id).2.selection = s.selection := by
  unfold entered
  split <;> rfl

@[simp] theorem entered_loaded (engine : Oracle) (s : Session) (id : Int) :
    (s.entered engine id).2.loaded = s.loaded := by
  unfold entered
  split <;> rfl

/-- An analysis that is needed is used; if none is needed, nothing changes. -/
theorem analysed_eq_ok {c : Contract} (h : s.analysed engine c = .ok t) :
    (s.needsAnalysis c = false ∧ t = s) ∨
      (s.needsAnalysis c = true ∧
        ∃ a, engine (.analysis c.name) = .ok a ∧ t = s.useAnalysis c.name a) := by
  unfold analysed at h
  split at h
  · rename_i hneeds
    cases hanswer : engine (.analysis c.name) with
    | error fault => rw [hanswer] at h; cases h
    | ok a =>
      rw [hanswer] at h
      cases h
      exact .inr ⟨hneeds, a, rfl, rfl⟩
  · rename_i hneeds
    cases h
    exact .inl ⟨by simpa using hneeds, rfl⟩

/-- The fetches of a function are sent out without waiting, in the turn in which its source has come. -/
theorem perform_fetchRequests (s : Session) (functionId : Int) :
    s.perform (.flowGraph functionId :: if s.hasSummary functionId then [.pathDetail functionId] else []) =
      (.finished, s.sentFor functionId) := by
  unfold sentFor
  split <;> rfl

/-- Opening a function waits for its source, then displays it. -/
theorem completed_openFunction (engine : Oracle) (s : Session) (owner : Option Contract)
    (functionId : Int) :
    completed engine (s.openFunction owner functionId).2 (s.openFunction owner functionId).1 =
      s.opened engine owner functionId := by
  rw [openFunction_eq_perform, Selection.functionRequests]
  simp only [List.cons_append, List.nil_append, perform, opened]
  rw [completed_waiting]
  cases hsource : engine (.source functionId) with
  | error fault => simp only [resume, completed_failed]
  | ok source =>
    have hwants : ∀ t : Session, t.selection.functionId = some functionId →
        t.wants (some functionId) functionId = true := by
      intro t ht
      simp [wants, ht]
    simp only [resume]
    rw [if_pos (hwants _ rfl)]
    -- Whether there is a summary does not depend on what is displayed, so the requests are those of now.
    exact (congrArg (fun r : Turn × Session => completed engine r.2 r.1)
      (perform_fetchRequests (Session.present _ (some functionId) source) functionId)).trans
        (completed_finished _ _)

/-- A selected contract waits for its source, then displays it. -/
theorem completed_enter {id : Int} (hselection : s.selection = { contractId := some id }) :
    completed engine (s.perform [.source id none]).2 (s.perform [.source id none]).1 =
      s.entered engine id := by
  simp only [perform, entered]
  rw [completed_waiting]
  cases hsource : engine (.source id) with
  | error fault => simp only [resume, completed_failed]
  | ok source =>
    have hwants : s.wants none id = true := by simp [wants, hselection]
    simp only [resume, hwants, if_true, perform, completed_finished]

variable {contracts : List Contract} {event : NavigationEvent}

/-- The selection of a function begins in the same way, whatever the event names beside the function. -/
theorem begin_function (hcontracts : s.contracts = some contracts) {functionId : Int}
    (hevent : event.function? = some functionId) :
    s.begin (.dispatch event) = s.selectFunction contracts functionId := by
  cases event <;> cases hevent <;> simp only [begin, hcontracts]

/-- What the selection of a function comes to. -/
theorem called_function (hcontracts : s.contracts = some contracts) {functionId : Int}
    (hevent : event.function? = some functionId) :
    s.called engine (.dispatch event) =
      match Contract.ownerOf? contracts functionId with
      | none => s.opened engine none functionId
      | some owner =>
        match s.analysed engine owner with
        | .error fault => (.error fault, s)
        | .ok s => s.opened engine (some owner) functionId := by
  rw [called, begin_function hcontracts hevent, selectFunction]
  cases Contract.ownerOf? contracts functionId with
  | none => exact completed_openFunction engine s none functionId
  | some owner =>
    -- The analysis is asked for first, so an engine that fails on it leaves the selection as it was.
    simp only [analysed]
    split
    · rw [completed_waiting]
      cases hanswer : engine (.analysis owner.name) with
      | error fault => simp only [resume, completed_failed, Except.map]
      | ok a => exact completed_openFunction engine (s.useAnalysis owner.name a) (some owner) functionId
    · exact completed_openFunction engine s (some owner) functionId

/-- What the selection of a contract comes to. -/
theorem called_contract (hcontracts : s.contracts = some contracts) (id : Int) :
    s.called engine (.dispatch (.selectContract id)) =
      match Contract.withId? contracts id with
      | none => (.error (.unknownContract id), s)
      | some c =>
        match (s.atContract id).analysed engine c with
        | .error fault => (.error fault, s.atContract id)
        | .ok s => s.entered engine id := by
  -- Here the contract is selected before its analysis is asked for, and stays so if that fails.
  have hbegin : s.begin (.dispatch (.selectContract id)) =
      match Contract.withId? contracts id with
      | none => (.failed (.unknownContract id), s)
      | some c =>
        if (s.atContract id).needsAnalysis c then
          (.waiting (.contractAnalysis c [.source id none]), s.atContract id)
        else (s.atContract id).perform [.source id none] := by
    simp only [begin, hcontracts]
    rfl
  rw [called, hbegin]
  cases Contract.withId? contracts id with
  | none => exact completed_failed ..
  | some c =>
    simp only [analysed]
    split
    · rw [completed_waiting]
      cases hanswer : engine (.analysis c.name) with
      | error fault => simp only [resume, completed_failed, Except.map]
      | ok a => exact completed_enter (show ((s.atContract id).useAnalysis c.name a).selection = _ from rfl)
    · exact completed_enter (show (s.atContract id).selection = _ from rfl)

/-- Other events are applied to the selection in one turn. -/
theorem begin_steer (hcontracts : s.contracts = some contracts) (h : event.selects = false) :
    s.begin (.dispatch event) = (.finished, (s.navigate event).1) := by
  simp only [begin, hcontracts]
  cases event with
  | selectContract id => cases h
  | selectFunction id contract => cases h
  | navigateToFunction id contract => cases h
  | _ => rfl

/-- They fetch nothing. -/
theorem called_steer (hcontracts : s.contracts = some contracts) (h : event.selects = false) :
    s.called engine (.dispatch event) = (.ok (), (s.navigate event).1) := by
  rw [called, begin_steer hcontracts h, completed_finished]

/-! ### Fetches -/

/-- Everything that is out has come, in the order in which it was sent. -/
def settled (engine : Oracle) (s : Session) : Session :=
  s.fetches.foldl (fun s f => s.settle f (engine f.query)) s

/-- Where nothing is out, nothing is to come. -/
theorem settled_of_idle (h : s.fetches = []) : s.settled engine = s := by
  rw [settled, h, List.foldl_nil]

/-- What can become of a fetch that comes: it was not out, its answer is passed over, or its answer is kept for
    the function that it was sent for. -/
inductive Received (s : Session) (f : Fetch) : Session → Prop
  | unheard (hout : f ∉ s.fetches) : Received s f s
  | passedOver (hout : f ∈ s.fetches) : Received s f (s.close f)
  | flowGraph (hout : f ∈ s.fetches) (haim : f.aim = .flowGraph) (graph : Option Wire.Value) :
      Received s f ((s.close f).keepFlowGraph f.functionId graph)
  | detail (hout : f ∈ s.fetches) (haim : f.aim = .detail) (paths : List PathTrace) :
      Received s f ((s.close f).keepDetail f.functionId paths)

/-- **Inversion.** A fetch comes in one of four ways. -/
theorem received_settle (s : Session) (f : Fetch) (answer : Except Fault f.query.Answer) :
    s.Received f (s.settle f answer) := by
  unfold settle
  split
  · rename_i hout
    -- The answer's type depends on the aim, so the fetch is taken apart first.
    obtain ⟨ticket, aim, functionId⟩ := f
    cases answer with
    | error fault => cases aim <;> exact .passedOver hout
    | ok v =>
      cases aim with
      | flowGraph =>
        simp only [accept]
        split
        · exact .flowGraph hout rfl v
        · exact .passedOver hout
      | detail =>
        simp only [accept]
        split
        · exact .detail hout rfl v
        · exact .passedOver hout
  · rename_i hout
    exact .unheard hout

/-- A fetch that has come is not out any more. -/
theorem Received.fetches {f : Fetch} (h : s.Received f t) : t.fetches = s.fetches.erase f := by
  cases h with
  | unheard hout => exact (List.erase_of_not_mem hout).symm
  | passedOver => rfl
  | flowGraph => rfl
  | detail => rfl

/-- What has come is not out any more; a fetch that was not out changes nothing. -/
theorem settle_fetches (s : Session) (f : Fetch) (answer : Except Fault f.query.Answer) :
    (s.settle f answer).fetches = s.fetches.erase f :=
  (s.received_settle f answer).fetches

/-- A fetch adds detailed paths only for the function that it was sent for. -/
theorem Received.mem_details {f : Fetch} (h : s.Received f t) {entry : Int × List PathTrace}
    (hentry : entry ∈ t.details) :
    entry ∈ s.details ∨ (f ∈ s.fetches ∧ f.aim = .detail ∧ entry.1 = f.functionId) := by
  cases h with
  | unheard => exact .inl hentry
  | passedOver => exact .inl hentry
  | flowGraph => exact .inl hentry
  | detail hout haim paths =>
    rcases Entries.mem_put hentry with rfl | hold
    · exact .inr ⟨hout, haim, rfl⟩
    · exact .inl hold

/-- The first fetch that is out comes first, and then the others. -/
theorem settled_cons {f : Fetch} {rest : List Fetch} (h : s.fetches = f :: rest) :
    s.settled engine = (s.settle f (engine f.query)).settled engine := by
  have hrest : (s.settle f (engine f.query)).fetches = rest := by
    rw [settle_fetches, h, List.erase_cons_head]
  rw [settled, h, List.foldl_cons, settled, hrest]

/-- **Run lemma.** What every fetch that is out keeps when it comes, holds when everything has come; and
    then nothing is out. -/
theorem settled_invariant {P : Session → Prop}
    (hstep : ∀ s f, f ∈ s.fetches → P s → P (s.settle f (engine f.query))) (hs : P s) :
    P (s.settled engine) ∧ (s.settled engine).fetches = [] := by
  -- The induction is on what is out: when the first fetch has come, the rest is still out.
  induction hfetches : s.fetches generalizing s with
  | nil =>
    rw [settled_of_idle hfetches]
    exact ⟨hs, hfetches⟩
  | cons f rest ih =>
    rw [settled_cons hfetches]
    refine ih (hstep s f (by rw [hfetches]; exact List.mem_cons_self) hs) ?_
    rw [settle_fetches, hfetches, List.erase_cons_head]

/-- When everything has come, nothing is out. -/
theorem settled_fetches (engine : Oracle) (s : Session) : (s.settled engine).fetches = [] :=
  (settled_invariant (P := fun _ => True) (fun _ _ _ _ => trivial) trivial).2

/-- Fetches concern the data of functions only. -/
theorem settled_eq (engine : Oracle) (s : Session) :
    ∃ tasks fetches flowGraphs details memo, s.settled engine =
      { s with
        tasks := tasks, fetches := fetches, flowGraphs := flowGraphs, details := details, memo := memo } := by
  refine (settled_invariant (P := fun t => ∃ tasks fetches flowGraphs details memo, t =
    { s with
      tasks := tasks, fetches := fetches, flowGraphs := flowGraphs, details := details, memo := memo })
    ?_ ⟨_, _, _, _, _, rfl⟩).1
  rintro t f - ⟨_, _, _, _, _, rfl⟩
  obtain ⟨_, _, _, _, _, hsettle⟩ := settle_eq _ f (engine f.query)
  exact ⟨_, _, _, _, _, hsettle⟩

/-- The control-flow graph of the selected function is taken over. -/
theorem settle_flowGraph {functionId : Int} (hselected : s.selection.functionId = some functionId)
    {ticket : Nat} (hout : ⟨ticket, .flowGraph, functionId⟩ ∈ s.fetches)
    (answer : Except Fault (Option Wire.Value)) :
    (s.settle ⟨ticket, .flowGraph, functionId⟩ answer).flowGraphs =
        s.flowGraphs.putAnswer functionId answer ∧
      (s.settle ⟨ticket, .flowGraph, functionId⟩ answer).details = s.details := by
  unfold settle
  rw [if_pos hout]
  cases answer with
  | error fault => exact ⟨rfl, rfl⟩
  | ok graph =>
    simp only [accept]
    rw [if_pos (by simp [wants, close, hselected])]
    exact ⟨rfl, rfl⟩

/-- The detailed paths of the selected function are taken over. -/
theorem settle_detail {functionId : Int} (hselected : s.selection.functionId = some functionId)
    {ticket : Nat} (hout : ⟨ticket, .detail, functionId⟩ ∈ s.fetches)
    (answer : Except Fault (List PathTrace)) :
    (s.settle ⟨ticket, .detail, functionId⟩ answer).flowGraphs = s.flowGraphs ∧
      (s.settle ⟨ticket, .detail, functionId⟩ answer).details =
        s.details.putAnswer functionId answer := by
  unfold settle
  rw [if_pos hout]
  cases answer with
  | error fault => exact ⟨rfl, rfl⟩
  | ok paths =>
    simp only [accept]
    rw [if_pos (by simp [wants, close, hselected])]
    exact ⟨rfl, rfl⟩

/-- What was sent out for the selected function, when nothing else was out, brings its control-flow graph,
    and its detailed paths if the function has a summary. -/
theorem settled_sentFor (engine : Oracle) {functionId : Int}
    (hselected : s.selection.functionId = some functionId)
    (hidle : s.fetches = []) :
    ((s.sentFor functionId).settled engine).flowGraphs =
        s.flowGraphs.putAnswer functionId (engine (.flowGraph functionId)) ∧
      ((s.sentFor functionId).settled engine).details =
        if s.hasSummary functionId then
          s.details.putAnswer functionId (engine (.detail functionId))
        else s.details := by
  -- The function is still selected when the second answer comes, so both are wanted.
  rcases sentFor_cases s functionId with ⟨hsummary, hsent⟩ | ⟨hsummary, hsent⟩
  · have hout : (s.sentFor functionId).fetches = [⟨s.nextTicket, .flowGraph, functionId⟩,
        ⟨s.nextTicket + 1, .detail, functionId⟩] := by
      rw [hsent, hidle]
      rfl
    have hselected' : (s.sentFor functionId).selection.functionId = some functionId := by
      rw [hsent]
      exact hselected
    obtain ⟨hgraphs, hdetails⟩ := settle_flowGraph hselected' (hout ▸ List.mem_cons_self)
      (engine (.flowGraph functionId))
    have hout' : ((s.sentFor functionId).settle ⟨s.nextTicket, .flowGraph, functionId⟩
        (engine (.flowGraph functionId))).fetches = [⟨s.nextTicket + 1, .detail, functionId⟩] := by
      rw [settle_fetches, hout, List.erase_cons_head]
    obtain ⟨hgraphs', hdetails'⟩ := settle_detail
      ((congrArg Selection.functionId (settle_selection ..)).trans hselected') (hout' ▸ List.mem_cons_self)
      (engine (.detail functionId))
    rw [settled_cons hout, settled_cons hout', settled_of_idle (by
      rw [settle_fetches, hout', List.erase_cons_head]), hgraphs', hgraphs, hdetails', hdetails, hsent,
      if_pos hsummary]
    exact ⟨rfl, rfl⟩
  · have hout : (s.sentFor functionId).fetches = [⟨s.nextTicket, .flowGraph, functionId⟩] := by
      rw [hsent, hidle]
      rfl
    have hselected' : (s.sentFor functionId).selection.functionId = some functionId := by
      rw [hsent]
      exact hselected
    obtain ⟨hgraphs, hdetails⟩ := settle_flowGraph hselected' (hout ▸ List.mem_cons_self)
      (engine (.flowGraph functionId))
    rw [settled_cons hout, settled_of_idle (by rw [settle_fetches, hout, List.erase_cons_head]), hgraphs,
      hdetails, hsent, if_neg (by simp [hsummary])]
    exact ⟨rfl, rfl⟩

end Session

end RangeAudit
