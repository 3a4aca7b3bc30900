import Mathlib.Logic.Function.Iterate
import Mathlib.Logic.Relation
import RangeAudit.Analysis.CallGraph

namespace RangeAudit.CallGraph

/-!
# The part of the call graph below a function

The functions below a function are found by a search that keeps a stack of pending functions, on which a
function may stand more than once.  The search ends, and it has reached exactly the functions to which a chain
of calls leads.

* `Calls`, `Reaches` — a call with a target, and chains of them;
* `Search.Covers` — the loop invariant: nothing else is reached or pending, and what a function calls is
  reached or pending as soon as the function is reached;
* `Search.exists_iterate_eq` — a search ends, after no more steps than it had left to do;
* `mem_reach_iff` — hence what is reached are the functions with a chain of calls to them;
* `reaches_below_iff` — the part below a function has the same chains from it;
* `below_eq_reachable` — the part below a function is what is reached, and has no smaller part below it.
-/

/-- A call with a target leads from one function to another. -/
def Calls (g : CallGraph) (a b : Int) : Prop :=
  ∃ e ∈ g.edges, e.source = a ∧ e.target = some b

/-- A chain of zero or more calls leads from one function to another. -/
def Reaches (g : CallGraph) : Int → Int → Prop :=
  Relation.ReflTransGen g.Calls

variable {g : CallGraph}

/-- The targets of a function are what it calls. -/
theorem mem_targets_iff {a b : Int} : b ∈ g.targets a ↔ g.Calls a b := by
  simp [targets, Calls, and_assoc]

/-! ### The search -/

namespace Search

/-- A pending function that was reached already is dropped. -/
theorem step_of_mem {reached rest : List Int} {id : Int} (h : id ∈ reached) :
    step g ⟨reached, id :: rest⟩ = ⟨reached, rest⟩ :=
  if_pos h

/-- Any other is reached, and what it calls is pending unless it was reached already. -/
theorem step_of_not_mem {reached rest : List Int} {id : Int} (h : id ∉ reached) :
    step g ⟨reached, id :: rest⟩ =
      ⟨id :: reached, ((g.targets id).filter (· ∉ id :: reached)).reverse ++ rest⟩ :=
  if_neg h

/-- A function is reached or pending. -/
def Has (s : Search) (id : Int) : Prop :=
  id ∈ s.reached ∨ id ∈ s.pending

/-- What a search from a function keeps: it has the function and only what that reaches, and it has
    whatever a reached function calls. -/
structure Covers (g : CallGraph) (start : Int) (s : Search) : Prop where
  hasStart : s.Has start
  sound : ∀ id, s.Has id → g.Reaches start id
  closed : ∀ a ∈ s.reached, ∀ b, g.Calls a b → s.Has b

/-- In the beginning nothing is reached, and only the start is pending. -/
theorem covers_start (start : Int) : Covers g start { pending := [start] } where
  hasStart := .inr List.mem_cons_self
  sound id h := by
    obtain rfl : id = start := by simpa [Has] using h
    exact .refl
  closed a ha := absurd ha List.not_mem_nil

/-- A step gives up no function that the search has. -/
theorem Has.step {s : Search} {id : Int} (h : s.Has id) : (s.step g).Has id := by
  obtain ⟨reached, _ | ⟨next, rest⟩⟩ := s
  · exact h
  · -- The head either was reached before and is dropped, or it joins the reached ones.
    by_cases hmem : next ∈ reached
    · rw [step_of_mem hmem]
      rcases h with h | h
      · exact .inl h
      · rcases List.mem_cons.mp h with rfl | h
        · exact .inl hmem
        · exact .inr h
    · rw [step_of_not_mem hmem]
      rcases h with h | h
      · exact .inl (List.mem_cons_of_mem _ h)
      · rcases List.mem_cons.mp h with rfl | h
        · exact .inl List.mem_cons_self
        · exact .inr (List.mem_append_right _ h)

/-- A step adds nothing but what a pending function calls. -/
theorem Has.of_step {s : Search} {id : Int} (h : (s.step g).Has id) :
    s.Has id ∨ ∃ next ∈ s.pending, g.Calls next id := by
  obtain ⟨reached, _ | ⟨next, rest⟩⟩ := s
  · exact .inl h
  · by_cases hmem : next ∈ reached
    · rw [step_of_mem hmem] at h
      exact .inl (h.imp_right (List.mem_cons_of_mem _))
    · rw [step_of_not_mem hmem] at h
      rcases h with h | h
      · rcases List.mem_cons.mp h with rfl | h
        · exact .inl (.inr List.mem_cons_self)
        · exact .inl (.inl h)
      · rcases List.mem_append.mp h with h | h
        · -- The only newcomers are targets of calls from the head.
          have htarget := (List.mem_filter.mp (List.mem_reverse.mp h)).1
          exact .inr ⟨next, List.mem_cons_self, mem_targets_iff.mp htarget⟩
        · exact .inl (.inr (List.mem_cons_of_mem _ h))

/-- When a step reaches a function, it has whatever this calls. -/
theorem has_of_mem_reached_step {s : Search} {a : Int} (h : a ∈ (s.step g).reached) :
    a ∈ s.reached ∨ ∀ b, g.Calls a b → (s.step g).Has b := by
  obtain ⟨reached, _ | ⟨next, rest⟩⟩ := s
  · exact .inl h
  · by_cases hmem : next ∈ reached
    · rw [step_of_mem hmem] at h
      exact .inl h
    · rw [step_of_not_mem hmem] at h ⊢
      rcases List.mem_cons.mp h with rfl | h
      · -- The targets of the new function are pending, except for those reached before.
        refine .inr fun b hcalls => ?_
        by_cases hb : b ∈ a :: reached
        · exact .inl hb
        · have htarget : b ∈ (g.targets a).filter (· ∉ a :: reached) :=
            List.mem_filter.mpr ⟨mem_targets_iff.mpr hcalls, decide_eq_true hb⟩
          exact .inr (List.mem_append_left _ (List.mem_reverse.mpr htarget))
      · exact .inl h

/-- **Step lemma.** Each step keeps the invariant. -/
theorem Covers.step {start : Int} {s : Search} (h : Covers g start s) : Covers g start (s.step g) where
  hasStart := h.hasStart.step
  sound id hid := by
    rcases hid.of_step with hid | ⟨next, hnext, hcalls⟩
    · exact h.sound id hid
    · exact (h.sound next (.inr hnext)).tail hcalls
  closed a ha b hcalls := by
    rcases has_of_mem_reached_step ha with ha | hall
    · exact (h.closed a ha b hcalls).step
    · exact hall b hcalls

/-- When nothing is pending, exactly what the function reaches is reached. -/
theorem Covers.mem_reached_iff {start : Int} {s : Search} (h : Covers g start s) (hpending : s.pending = [])
    (id : Int) : id ∈ s.reached ↔ g.Reaches start id := by
  have hhas : ∀ id, s.Has id ↔ id ∈ s.reached := fun id => by simp [Has, hpending]
  refine ⟨fun hid => h.sound id (.inl hid), fun hreaches => ?_⟩
  induction hreaches with
  | refl => exact (hhas _).mp h.hasStart
  | tail _ hcalls ih => exact (hhas _).mp (h.closed _ ih _ hcalls)

/-- **Run lemma.** At the end nothing is pending, so what is reached is closed under calls. -/
theorem Covers.mem_run_iff {start : Int} {s : Search} (h : Covers g start s) (id : Int) :
    id ∈ s.run g ↔ g.Reaches start id := by
  induction s using run.induct (g := g) with
  | case1 s hpending =>
    rw [run, if_pos hpending]
    exact h.mem_reached_iff hpending id
  | case2 s hpending ih =>
    rw [run, if_neg hpending]
    exact ih h.step

/-- **The search ends.** After at most as many steps as there was left to do, nothing is pending. -/
theorem exists_iterate_eq (s : Search) :
    ∃ count ≤ s.remaining g, (step g)^[count] s = ⟨s.run g, []⟩ := by
  induction s using run.induct (g := g) with
  | case1 s hpending =>
    refine ⟨0, Nat.zero_le _, ?_⟩
    rw [run, if_pos hpending, Function.iterate_zero_apply, ← hpending]
  | case2 s hpending ih =>
    obtain ⟨count, hcount, hend⟩ := ih
    have hless := remaining_step_lt g hpending
    have hrun : s.run g = (s.step g).run g := by rw [run, if_neg hpending]
    refine ⟨count + 1, by omega, ?_⟩
    rw [Function.iterate_succ_apply, hend, hrun]

end Search

/-- What is reached are the functions to which a chain of calls leads. -/
theorem mem_reach_iff (g : CallGraph) (a b : Int) : b ∈ g.reach a ↔ g.Reaches a b :=
  (Search.covers_start a).mem_run_iff b

instance (g : CallGraph) (a b : Int) : Decidable (g.Reaches a b) :=
  decidable_of_iff _ (mem_reach_iff g a b)

/-- Whether a function is reached can be decided. -/
theorem contains_reach (g : CallGraph) (a b : Int) : (g.reach a).contains b = decide (g.Reaches a b) := by
  rw [Bool.eq_iff_iff, List.contains_iff_mem, decide_eq_true_eq, mem_reach_iff]

/-! ### The part below a function -/

/-- The part below a function has the nodes that are reached, and the edges between them. -/
theorem below_some (g : CallGraph) (start : Int) :
    g.below (some start) =
      { nodes := g.nodes.filter fun n => g.Reaches start n.id
        edges := g.edges.filter fun e => e.target.isSome && g.Reaches start e.source
        recursiveFunctions := g.recursiveFunctions.filter fun id => g.Reaches start id } := by
  have hedges : ∀ e ∈ g.edges,
      (decide (g.Reaches start e.source) && e.target.any fun target => g.Reaches start target) =
        (e.target.isSome && decide (g.Reaches start e.source)) := by
    intro e he
    cases htarget : e.target with
    | none => simp
    | some target =>
      -- A call whose source is reached has its target reached.
      have hcalls : g.Calls e.source target := ⟨e, he, rfl, htarget⟩
      have hreached : g.Reaches start e.source → g.Reaches start target := fun h => h.tail hcalls
      simpa using hreached
  have hcontains : (g.reach start).contains = fun id => decide (g.Reaches start id) :=
    funext (contains_reach g start)
  simp only [below, hcontains, contains_reach, List.filter_congr hedges]

/-- From the function the part below it has the same chains of calls. -/
theorem reaches_below_iff (g : CallGraph) (start id : Int) :
    (g.below (some start)).Reaches start id ↔ g.Reaches start id := by
  -- The calls kept are those of the sources that are reached.
  have hcalls : ∀ a b, (g.below (some start)).Calls a b ↔ g.Calls a b ∧ g.Reaches start a := by
    intro a b
    simp only [below_some, Calls, List.mem_filter, Bool.and_eq_true, decide_eq_true_eq]
    constructor
    · rintro ⟨e, ⟨he, -, hsource⟩, rfl, htarget⟩
      exact ⟨⟨e, he, rfl, htarget⟩, hsource⟩
    · rintro ⟨⟨e, he, rfl, htarget⟩, hsource⟩
      exact ⟨e, ⟨he, by rw [htarget]; rfl, hsource⟩, rfl, htarget⟩
  constructor
  · intro h
    exact Relation.ReflTransGen.mono (fun a b hab => ((hcalls a b).mp hab).1) start id h
  · intro h
    -- Along the path every node before the last is itself reached, so its calls are kept.
    induction h with
    | refl => exact .refl
    | tail hreaches hab ih => exact ih.tail ((hcalls _ _).mpr ⟨hab, hreaches⟩)

/-- **The scoped call graph.** The search for the functions below a function ends, after at most one step more
    than the graph has calls.  What is left of the graph are, in order and as often as they are there, the
    nodes to which a chain of zero or more calls leads from the function, the calls that have a target and
    whose source is reached so, and the recursive functions reached so.  Taking the part below the same
    function once more changes nothing. -/
theorem below_eq_reachable (g : CallGraph) (start : Int) :
    (∃ count ≤ g.edges.length + 1,
      (Search.step g)^[count] { pending := [start] } = ⟨g.reach start, []⟩) ∧
    (∀ id, id ∈ g.reach start ↔ g.Reaches start id) ∧
    g.below (some start) =
      { nodes := g.nodes.filter fun n => g.Reaches start n.id
        edges := g.edges.filter fun e => e.target.isSome && g.Reaches start e.source
        recursiveFunctions := g.recursiveFunctions.filter fun id => g.Reaches start id } ∧
    (g.below (some start)).below (some start) = g.below (some start) := by
  refine ⟨?_, mem_reach_iff g start, below_some g start, ?_⟩
  · -- At the start one entry is pending and no edge is spent.
    have hremaining : Search.remaining g { pending := [start] } = g.edges.length + 1 := by
      simp [Search.remaining]
    obtain ⟨count, hcount, hend⟩ := Search.exists_iterate_eq (g := g) { pending := [start] }
    exact ⟨count, hremaining ▸ hcount, hend⟩
  · rw [below_some (g.below (some start))]
    simp only [reaches_below_iff]
    rw [below_some g]
    simp only [List.filter_filter, Bool.and_self]

end RangeAudit.CallGraph
