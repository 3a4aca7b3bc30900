import RangeAudit.Analysis.Basic

namespace RangeAudit

/-!
# Neighbours and reach in the call graph

The callers and callees of a function, each once and by their first edge, and the part of the graph
that a function reaches. Calls without a target reach nothing.

* `CallGraph.callers`, `CallGraph.callees` : the direct neighbours that are known functions;
* `Search` : the functions reached and pending in a search, and its steps, each of which leaves less to do;
* `CallGraph.reach` : the functions reached in any number of calls;
* `CallGraph.below` : the graph restricted to them.
-/

/-- A function that another one calls or is called by. -/
structure FunctionLink where
  id : Int
  name : String
  deriving DecidableEq, Inhabited

namespace CallGraph

/-- The first node of a function. -/
def node? (g : CallGraph) (id : Int) : Option CallNode :=
  g.nodes.find? fun n => n.id == id

/-- Add a neighbour, unless it is linked already or has no node. -/
def addLink (g : CallGraph) (links : List FunctionLink) (id : Int) : List FunctionLink :=
  if links.any fun link => link.id == id then links
  else
    match g.node? id with
    | some n => links ++ [⟨n.id, n.qualifiedName⟩]
    | none => links

/-- The links to a list of neighbours, each once, in the order in which they first appear. -/
def linksTo (g : CallGraph) (ids : List Int) : List FunctionLink :=
  ids.foldl g.addLink []

/-- The functions with a call to the target; `none` stands for the calls without a target. -/
def callers (g : CallGraph) (target : Option Int) : List FunctionLink :=
  g.linksTo ((g.edges.filter fun e => e.target == target).map CallEdge.source)

/-- The functions that a function calls. -/
def callees (g : CallGraph) (source : Option Int) : List FunctionLink :=
  g.linksTo ((g.edges.filter fun e => some e.source == source).filterMap CallEdge.target)

/-- The targets of the calls of a function. -/
def targets (g : CallGraph) (source : Int) : List Int :=
  (g.edges.filter fun e => e.source == source).filterMap CallEdge.target

/-! ### Searching the graph -/

/-- A search: the functions reached so far, and those still to be looked at, the next one first. -/
structure Search where
  reached : List Int := []
  pending : List Int
  deriving DecidableEq

namespace Search

/-- Look at the next function. If it is new, it is reached now, and the targets of its calls are
    pending before all others, the last one first, except for those reached already. -/
def step (g : CallGraph) (s : Search) : Search :=
  match s.pending with
  | [] => s
  | id :: rest =>
    if id ∈ s.reached then { s with pending := rest }
    else
      let reached := id :: s.reached
      ⟨reached, ((g.targets id).filter (· ∉ reached)).reverse ++ rest⟩

/-- What a search has left to do: each call of a function that is not reached yet may make its target
    pending, and each pending function is looked at once. -/
def remaining (g : CallGraph) (s : Search) : Nat :=
  (g.edges.filter (·.source ∉ s.reached)).length + s.pending.length

/-- The calls of a function that is reached are not left to do any more. -/
theorem length_targets_add_le (edges : List CallEdge) (reached : List Int) (id : Int) (h : id ∉ reached) :
    (edges.filter (·.source == id)).length + (edges.filter (·.source ∉ id :: reached)).length ≤
      (edges.filter (·.source ∉ reached)).length := by
  induction edges with
  | nil => simp
  | cons e rest ih =>
    by_cases hid : e.source = id
    · simp [hid, h] at ih ⊢
      omega
    · by_cases hreached : e.source ∈ reached <;> simp [hid, hreached] at ih ⊢ <;> omega

/-- Each step leaves less to do. -/
theorem remaining_step_lt (g : CallGraph) {s : Search} (h : s.pending ≠ []) :
    (s.step g).remaining g < s.remaining g := by
  obtain ⟨reached, pending⟩ := s
  cases pending with
  | nil => exact absurd rfl h
  | cons id rest =>
    by_cases hmem : id ∈ reached
    · simp [step, remaining, hmem]
    · have hcalls := length_targets_add_le g.edges reached id hmem
      have htargets : (g.targets id).length ≤ (g.edges.filter (·.source == id)).length :=
        List.length_filterMap_le ..
      have hnew : ((g.targets id).filter (· ∉ id :: reached)).length ≤ (g.targets id).length :=
        List.length_filter_le ..
      simp only [step, hmem, if_false, remaining, List.length_append, List.length_reverse, List.length_cons]
      omega

/-- The functions that are reached when nothing is pending any more. -/
def run (g : CallGraph) (s : Search) : List Int :=
  if s.pending = [] then s.reached else run g (s.step g)
termination_by s.remaining g
decreasing_by exact remaining_step_lt g ‹_›

end Search

/-- The functions that a function reaches in zero or more calls. -/
def reach (g : CallGraph) (start : Int) : List Int :=
  Search.run g { pending := [start] }

/-- The part of the graph that a function reaches; the whole graph without a function. -/
def below (g : CallGraph) (start : Option Int) : CallGraph :=
  match start with
  | none => g
  | some start =>
    let reached := g.reach start
    { nodes := g.nodes.filter fun n => reached.contains n.id
      edges := g.edges.filter fun e => reached.contains e.source && e.target.any reached.contains
      recursiveFunctions := g.recursiveFunctions.filter reached.contains }

end CallGraph

end RangeAudit
