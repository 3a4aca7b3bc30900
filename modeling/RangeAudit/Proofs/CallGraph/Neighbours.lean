import RangeAudit.Proofs.CallGraph.Reachable
import RangeAudit.Proofs.Entries.FirstOccurrence

namespace RangeAudit.CallGraph

/-!
# Callers and callees

The callers and the callees of a function are read off the same calls, from their two ends.  A call whose other
end has no node is passed over, and a function that is linked already is not linked again.

* `linksTo_eq` — the links are those of the distinct neighbours that have a node;
* `mem_callees_iff`, `mem_callers_iff` — hence there is a link for each neighbour with a node;
* `pairwise_firstCall_callees`, `pairwise_firstCall_callers` — the links stand in the order of the calls that
  yield them;
* `mem_callees_iff_mem_callers` — the two are dual, and callees are in the part of the graph below the function.
-/

variable {g : CallGraph}

/-- The function has a node. -/
def HasNode (g : CallGraph) (id : Int) : Prop :=
  ∃ n ∈ g.nodes, n.id = id

/-- The position of the first call from one function to another. -/
def firstCall (g : CallGraph) (a b : Int) : Nat :=
  g.edges.findIdx fun e => e.source == a && e.target == some b

/-- The node that is found has the identifier that was asked for. -/
theorem id_of_node? {id : Int} {n : CallNode} (h : g.node? id = some n) : n.id = id := by
  have hid := List.find?_some (p := fun n : CallNode => n.id == id) h
  exact beq_iff_eq.mp hid

/-- A node is found if the graph has it. -/
theorem isSome_node?_iff {id : Int} : (g.node? id).isSome ↔ g.HasNode id := by
  rw [node?, List.find?_isSome]
  simp only [beq_iff_eq, HasNode]

/-! ### Links -/

/-- The link to a function, if the function has a node. -/
def link? (g : CallGraph) (id : Int) : Option FunctionLink :=
  (g.node? id).map fun n => ⟨n.id, n.qualifiedName⟩

/-- The link to a function has its identifier. -/
theorem id_of_link? {id : Int} {link : FunctionLink} (h : g.link? id = some link) : link.id = id := by
  obtain ⟨n, hn, rfl⟩ := Option.map_eq_some_iff.mp h
  exact id_of_node? hn

/-- A link has the id of a node and the full name of the first node with this id. -/
theorem link?_eq_some_iff (link : FunctionLink) :
    g.link? link.id = some link ↔ ∃ n, g.node? link.id = some n ∧ link.name = n.qualifiedName := by
  rw [link?, Option.map_eq_some_iff]
  constructor
  · rintro ⟨n, hn, heq⟩
    exact ⟨n, hn, by rw [← heq]⟩
  · rintro ⟨n, hn, hname⟩
    refine ⟨n, hn, ?_⟩
    rw [id_of_node? hn, ← hname]

/-- A new neighbour is added if it has a node. -/
theorem addLink_of_not_any {links : List FunctionLink} {id : Int}
    (h : links.any (fun link => link.id == id) = false) : g.addLink links id = links ++ (g.link? id).toList := by
  rw [addLink, h, link?]
  cases g.node? id with
  | none => simp
  | some n => simp

/-- A function that is linked already is not linked again. -/
theorem addLink_of_any {links : List FunctionLink} {id : Int}
    (h : links.any (fun link => link.id == id) = true) : g.addLink links id = links := by
  rw [addLink, h]
  rfl

/-- A further function is linked behind the others. -/
theorem linksTo_concat (ids : List Int) (id : Int) :
    g.linksTo (ids ++ [id]) = g.addLink (g.linksTo ids) id := by
  rw [linksTo, List.foldl_append]
  rfl

/-- **Distinct neighbours.** Each neighbour is linked once, if it has a node, in the order in which the neighbours
    first occur. -/
theorem linksTo_eq (ids : List Int) : g.linksTo ids = ids.eraseDups.filterMap g.link? := by
  induction ids using List.reverseRecOn with
  | nil => rfl
  | append_singleton ids id ih =>
    have hany : (g.linksTo ids).any (fun link => link.id == id) = true ↔ id ∈ ids ∧ (g.link? id).isSome := by
      simp only [ih, List.any_eq_true, List.mem_filterMap, List.mem_eraseDups, beq_iff_eq]
      constructor
      · rintro ⟨link, ⟨other, hother, hlink⟩, rfl⟩
        rw [id_of_link? hlink, hlink]
        exact ⟨hother, rfl⟩
      · rintro ⟨hmem, hsome⟩
        obtain ⟨link, hlink⟩ := Option.isSome_iff_exists.mp hsome
        exact ⟨link, ⟨id, hmem, hlink⟩, id_of_link? hlink⟩
    rw [linksTo_concat, Entries.eraseDups_concat]
    cases hlinked : (g.linksTo ids).any fun link => link.id == id with
    | true =>
      rw [addLink_of_any hlinked, if_pos (hany.mp hlinked).1, ih]
    | false =>
      rw [addLink_of_not_any hlinked]
      by_cases hmem : id ∈ ids
      · -- A neighbour that occurred and is not linked has no node.
        have hnone : g.link? id = none := by
          cases hlink : g.link? id with
          | none => rfl
          | some link =>
            have hboth := hany.mpr ⟨hmem, by rw [hlink]; rfl⟩
            rw [hlinked] at hboth
            cases hboth
        rw [if_pos hmem, hnone, ih, Option.toList_none, List.append_nil]
      · rw [if_neg hmem, List.filterMap_append, ih]
        cases hlink : g.link? id with
        | none => simp [hlink]
        | some link => simp [hlink]

/-- The links are those to the given functions that are nodes of the graph. -/
theorem mem_linksTo_iff {ids : List Int} {link : FunctionLink} :
    link ∈ g.linksTo ids ↔ link.id ∈ ids ∧ g.link? link.id = some link := by
  rw [linksTo_eq, List.mem_filterMap]
  constructor
  · rintro ⟨id, hid, hlink⟩
    rw [id_of_link? hlink]
    exact ⟨List.mem_eraseDups.mp hid, hlink⟩
  · rintro ⟨hid, hlink⟩
    exact ⟨link.id, List.mem_eraseDups.mpr hid, hlink⟩

/-- The links stand in the order in which the neighbours first occur. -/
theorem pairwise_idxOf_linksTo (ids : List Int) :
    (g.linksTo ids).Pairwise fun link next => ids.idxOf link.id < ids.idxOf next.id := by
  rw [linksTo_eq, List.pairwise_filterMap]
  refine (pairwise_idxOf_eraseDups ids).imp fun {a b} hlt link hlink next hnext => ?_
  rw [id_of_link? hlink, id_of_link? hnext]
  exact hlt

/-- The links to the ends of calls stand in the order of the first calls that have these ends. -/
theorem pairwise_findIdx_linksTo (end? : CallEdge → Option Int) :
    (g.linksTo (g.edges.filterMap end?)).Pairwise fun link next =>
      g.edges.findIdx (fun e => end? e == some link.id) < g.edges.findIdx fun e => end? e == some next.id :=
  (pairwise_idxOf_linksTo _).imp (idxOf_filterMap_lt_iff end? g.edges _ _).mp

/-! ### The two directions -/

/-- The callees are the targets of the edges from the function. -/
theorem callees_eq (f : Int) :
    g.callees (some f) = g.linksTo (g.edges.filterMap fun e => if e.source == f then e.target else none) := by
  rw [callees, List.filterMap_filter]
  rfl

/-- The callers are the sources of the edges to the function. -/
theorem callers_eq (h : Int) :
    g.callers (some h) =
      g.linksTo (g.edges.filterMap fun e => if e.target == some h then some e.source else none) := by
  rw [callers, ← List.filterMap_eq_map', List.filterMap_filter]

/-- The callees of a function are the functions with a node that it calls. -/
theorem mem_callees_iff {f : Int} {link : FunctionLink} :
    link ∈ g.callees (some f) ↔
      g.Calls f link.id ∧ ∃ n, g.node? link.id = some n ∧ link.name = n.qualifiedName := by
  rw [callees_eq, mem_linksTo_iff, link?_eq_some_iff]
  simp [Calls]

/-- The callers of a function are the functions with a node that call it. -/
theorem mem_callers_iff {h : Int} {link : FunctionLink} :
    link ∈ g.callers (some h) ↔
      g.Calls link.id h ∧ ∃ n, g.node? link.id = some n ∧ link.name = n.qualifiedName := by
  rw [callers_eq, mem_linksTo_iff, link?_eq_some_iff]
  simp [Calls, and_comm]

/-- Callees stand in the order of their first edges. -/
theorem pairwise_firstCall_callees (g : CallGraph) (f : Int) :
    (g.callees (some f)).Pairwise fun link next => g.firstCall f link.id < g.firstCall f next.id := by
  have hend : ∀ (e : CallEdge) (id : Int),
      ((if e.source == f then e.target else none) == some id) = (e.source == f && e.target == some id) := by
    intro e id
    cases e.source == f <;> rfl
  have h := pairwise_findIdx_linksTo (g := g) fun e => if e.source == f then e.target else none
  rw [← callees_eq] at h
  simpa only [hend, firstCall] using h

/-- Callers stand in the order of their first edges. -/
theorem pairwise_firstCall_callers (g : CallGraph) (h : Int) :
    (g.callers (some h)).Pairwise fun link next => g.firstCall link.id h < g.firstCall next.id h := by
  have hend : ∀ (e : CallEdge) (id : Int),
      ((if e.target == some h then some e.source else none) == some id) =
        (e.source == id && e.target == some h) := by
    intro e id
    cases e.target == some h <;> simp
  have hpairwise := pairwise_findIdx_linksTo (g := g) fun e => if e.target == some h then some e.source else none
  rw [← callers_eq] at hpairwise
  simpa only [hend, firstCall] using hpairwise

/-- If the links are those of the neighbours that have a node, every such neighbour has a link. -/
theorem exists_mem_iff (neighbour : Int → Prop) {links : List FunctionLink}
    (h : ∀ link, link ∈ links ↔
      neighbour link.id ∧ ∃ n, g.node? link.id = some n ∧ link.name = n.qualifiedName) (id : Int) :
    (∃ link ∈ links, link.id = id) ↔ neighbour id ∧ g.HasNode id := by
  simp only [h, ← isSome_node?_iff, Option.isSome_iff_exists]
  constructor
  · rintro ⟨link, ⟨hneighbour, n, hn, -⟩, rfl⟩
    exact ⟨hneighbour, n, hn⟩
  · rintro ⟨hneighbour, n, hn⟩
    exact ⟨⟨id, n.qualifiedName⟩, ⟨hneighbour, n, hn, rfl⟩, rfl⟩

/-- What a function calls has its nodes in the part of the graph below the function. -/
theorem mem_below_of_calls {f h : Int} (hcalls : g.Calls f h) (hnode : g.HasNode h) :
    (g.below (some f)).HasNode h := by
  obtain ⟨n, hn, rfl⟩ := hnode
  refine ⟨n, ?_, rfl⟩
  rw [below_some]
  exact List.mem_filter.mpr ⟨hn, decide_eq_true (Relation.ReflTransGen.single hcalls)⟩

/-- **Callers and callees are dual.** Of two functions that have nodes, the second is a callee of the first if and
    only if the first is a caller of the second.  Each list has a link, with the full name of its first node,
    for every neighbour that has a node and for no other function; it has no function twice; and it stands in
    the order of the first calls that yield its links.  Every callee has a node in the part of the graph below
    the function. -/
theorem mem_callees_iff_mem_callers (g : CallGraph) (f h : Int) :
    (g.HasNode f → g.HasNode h →
      ((∃ link ∈ g.callees (some f), link.id = h) ↔ ∃ link ∈ g.callers (some h), link.id = f)) ∧
    (∀ link, link ∈ g.callees (some f) ↔
      g.Calls f link.id ∧ ∃ n, g.node? link.id = some n ∧ link.name = n.qualifiedName) ∧
    (∀ link, link ∈ g.callers (some h) ↔
      g.Calls link.id h ∧ ∃ n, g.node? link.id = some n ∧ link.name = n.qualifiedName) ∧
    ((g.callees (some f)).map FunctionLink.id).Nodup ∧
    ((g.callers (some h)).map FunctionLink.id).Nodup ∧
    ((g.callees (some f)).Pairwise fun link next => g.firstCall f link.id < g.firstCall f next.id) ∧
    ((g.callers (some h)).Pairwise fun link next => g.firstCall link.id h < g.firstCall next.id h) ∧
    ∀ link ∈ g.callees (some f), ∃ n ∈ (g.below (some f)).nodes, n.id = link.id := by
  have hcallees := pairwise_firstCall_callees g f
  have hcallers := pairwise_firstCall_callers g h
  refine ⟨fun hf hh => ?_, fun link => mem_callees_iff, fun link => mem_callers_iff,
    nodup_map_of_pairwise (fun id => g.firstCall f id) hcallees,
    nodup_map_of_pairwise (fun id => g.firstCall id h) hcallers, hcallees, hcallers, fun link hlink => ?_⟩
  · -- Both sides say `g.Calls f h`; each adds that the other end has a node, which is given.
    rw [exists_mem_iff (fun id => g.Calls f id) (fun _ => mem_callees_iff) h,
      exists_mem_iff (fun id => g.Calls id h) (fun _ => mem_callers_iff) f]
    exact and_congr_right fun _ => iff_of_true hh hf
  · -- A listed callee has a node, and one call from `f` leads to it, so it lies below `f`.
    obtain ⟨hcalls, n, hn, -⟩ := mem_callees_iff.mp hlink
    exact mem_below_of_calls hcalls (isSome_node?_iff.mp (by rw [hn]; rfl))

/-- A graph in which the first function calls the second, itself, a function without a node, the
    second once more and something unknown, and is called by the second. -/
def mutualCalls : CallGraph where
  nodes := [⟨1, "pay", some "Vault"⟩, ⟨2, "settle", none⟩, ⟨2, "settle", some "Token"⟩]
  edges :=
    [{ source := 1, target := some 2 }, { source := 1, target := some 1 }, { source := 1, target := some 9 },
      { source := 2, target := some 1 }, { source := 1, target := some 2 }, { source := 1, target := none }]

/-- Two functions that call each other, one of which also calls itself. -/
theorem mem_callees_iff_mem_callers_of_mutualCalls :
    mutualCalls.HasNode 1 ∧ mutualCalls.HasNode 2 ∧
      ((∃ link ∈ mutualCalls.callees (some 1), link.id = 2) ↔
        ∃ link ∈ mutualCalls.callers (some 2), link.id = 1) ∧
      mutualCalls.callees (some 1) = [⟨2, "settle"⟩, ⟨1, "Vault.pay"⟩] := by
  have hpay : mutualCalls.HasNode 1 := ⟨⟨1, "pay", some "Vault"⟩, by decide, rfl⟩
  have hsettle : mutualCalls.HasNode 2 := ⟨⟨2, "settle", none⟩, by decide, rfl⟩
  have hdual := (mem_callees_iff_mem_callers mutualCalls 1 2).1 hpay hsettle
  exact ⟨hpay, hsettle, hdual, by decide⟩

end RangeAudit.CallGraph
