import Mathlib.Data.List.Permutation
import Mathlib.Order.Bounds.Basic
import RangeAudit.Proofs.Entries.FirstOccurrence
import RangeAudit.Proofs.Entries.Passes
import RangeAudit.Source.RawPlaces

namespace RangeAudit

/-!
# The index of a line map

The index of a line map is made in one pass over its places, sorted by position.  A node is entered on its first
line and on every line where it has a place; what comes out depends on the order of the line map in one way only:
nodes that start in the same column of a line are listed in the order in which they come.

* `Marks`, `MarkedOn`, `FirstMark` — the entries of a line map that count, and what they say;
* `foldl_enter_lines`, `nodesOn_foldl_enter` — what the pass leaves, in whatever order the places come;
* `pairwise_before_sortedMarks`, `filter_sortedMarks` — the places are sorted, and ties keep their order;
* `NodeIndex.Indexes` — what it means for an index to be correct;
* `NodeIndex.ofRaw_indexes` — the index of a line map is correct, and a permutation changes no more than the order
  in which the nodes of a line are listed.
-/

open Wire (Value)

/-! ### What a line map says -/

/-- A value with a length: an array, an object or a text. -/
def Wire.Value.isSequence : Value → Bool
  | .arr _ => true
  | .obj _ => true
  | .str _ => true
  | _ => false

/-- An entry of a line map marks a place if it consists of its three integers and its line exists. -/
structure Marks (item : Value) (p : LinePlace) : Prop where
  eq_triple : item = .arr [.int p.line, .int p.column, .int p.node]
  one_le_line : 1 ≤ p.line

/-- Some entry marks the node on the line. -/
def MarkedOn (items : List Value) (node line : Int) : Prop :=
  ∃ item ∈ items, ∃ column, Marks item ⟨line, column, node⟩

/-- Of the entries that mark the node on the line, the one at this position has the smallest column,
    and it is the first with this column. -/
structure FirstMark (items : List Value) (line node column : Int) (position : Nat) : Prop where
  marks : ∃ item, items[position]? = some item ∧ Marks item ⟨line, column, node⟩
  first : ∀ (other : Nat) (item : Value) (column' : Int), items[other]? = some item →
    Marks item ⟨line, column', node⟩ → column < column' ∨ column = column' ∧ position ≤ other

/-- The first mark of a node on the line has a smaller column than that of another node, or comes
    before it in the same column. -/
def MarkedBefore (items : List Value) (line node other : Int) : Prop :=
  ∃ column position column' position',
    FirstMark items line node column position ∧ FirstMark items line other column' position' ∧
      (column < column' ∨ column = column' ∧ position < position')

/-- The place that an entry marks, if it marks one. -/
def markedPlace? : Value → Option LinePlace
  | .arr [.int line, .int column, .int node] => if 1 ≤ line then some ⟨line, column, node⟩ else none
  | _ => none

/-- The place that an entry marks is found, and only that. -/
theorem markedPlace?_eq_some_iff (item : Value) (p : LinePlace) :
    markedPlace? item = some p ↔ Marks item p := by
  constructor
  · intro h
    unfold markedPlace? at h
    split at h
    · split at h
      · cases h
        exact ⟨rfl, by assumption⟩
      · cases h
    · cases h
  · rintro ⟨rfl, hline⟩
    exact if_pos hline

/-- A node is marked on a line if one of the marked places is of this node and on this line. -/
theorem markedOn_iff {items : List Value} {node line : Int} :
    MarkedOn items node line ↔
      ∃ p ∈ items.filterMap markedPlace?, p.node = node ∧ p.line = line := by
  simp only [MarkedOn, List.mem_filterMap, markedPlace?_eq_some_iff]
  constructor
  · rintro ⟨item, hitem, column, hmarks⟩
    exact ⟨_, ⟨item, hitem, hmarks⟩, rfl, rfl⟩
  · rintro ⟨⟨line, column, node⟩, ⟨item, hitem, hmarks⟩, rfl, rfl⟩
    exact ⟨item, hitem, column, hmarks⟩

/-- What is read of an entry is a place on a line if the entry marks it. -/
theorem exists_ofRaw? {item : Value} (h : item.isSequence = true) :
    ∃ read, LinePlace.ofRaw? item = .ok read ∧ read.filter LinePlace.onLine = markedPlace? item := by
  unfold LinePlace.ofRaw?
  split
  · rename_i line column node
    refine ⟨some ⟨line, column, node⟩, rfl, ?_⟩
    by_cases hline : 1 ≤ line <;> simp [markedPlace?, LinePlace.onLine, hline, Option.filter]
  · rename_i items hnot
    refine ⟨none, rfl, ?_⟩
    unfold markedPlace?
    split
    · rename_i line column node heq
      cases heq
      exact absurd rfl (hnot line column node)
    · rfl
  · exact ⟨none, rfl, rfl⟩
  · exact ⟨none, rfl, rfl⟩
  · -- No other value has a length.
    rename_i harr hobj hstr
    cases item with
    | arr items => exact absurd rfl (harr items)
    | obj fields => exact absurd rfl (hobj fields)
    | str text => exact absurd rfl (hstr text)
    | _ => cases h

/-- Of a line map of sequences the places that its entries mark are read, and no others that are on a line. -/
theorem exists_placesOfRaw {items : List Value} (h : ∀ item ∈ items, item.isSequence = true) :
    ∃ places, placesOfRaw (.arr items) = .ok places ∧
      places.filter LinePlace.onLine = items.filterMap markedPlace? := by
  -- The induction is on the entries, each of which is read by itself.
  have hread : ∃ read, items.mapM LinePlace.ofRaw? = .ok read ∧
      (read.filterMap id).filter LinePlace.onLine = items.filterMap markedPlace? := by
    induction items with
    | nil => exact ⟨[], rfl, rfl⟩
    | cons item rest ih =>
      obtain ⟨read, hread, hplaces⟩ := ih fun other hother => h other (List.mem_cons_of_mem _ hother)
      obtain ⟨first, hfirst, hmarked⟩ := exists_ofRaw? (h item List.mem_cons_self)
      refine ⟨first :: read, ?_, ?_⟩
      · rw [List.mapM_cons, hfirst, hread]
        rfl
      · rw [List.filterMap_cons, List.filterMap_cons, ← hmarked, ← hplaces]
        cases first with
        | none => rfl
        | some p => cases hline : p.onLine <;> simp [Option.filter, hline]
  obtain ⟨read, hread, hplaces⟩ := hread
  refine ⟨read.filterMap id, ?_, hplaces⟩
  rw [placesOfRaw, hread]
  rfl

/-! ### The order of places -/

namespace LinePlace

/-- Places are compared by their lines, and on one line by their columns. -/
theorem before_iff (a b : LinePlace) :
    a.before b = true ↔ a.line < b.line ∨ a.line = b.line ∧ a.column ≤ b.column := by
  unfold before
  split <;> simp only [decide_eq_true_eq] <;> omega

/-- The comparison is transitive. -/
theorem before_trans (a b c : LinePlace) (hab : a.before b = true) (hbc : b.before c = true) :
    a.before c = true := by
  rw [before_iff] at *
  omega

/-- Of two places, one comes before the other, or both are of the same line and column. -/
theorem before_total (a b : LinePlace) : (a.before b || b.before a) = true := by
  rw [Bool.or_eq_true, before_iff, before_iff]
  omega

end LinePlace

/-- The places that a line map marks, sorted by position. -/
def sortedMarks (items : List Value) : List LinePlace :=
  (items.filterMap markedPlace?).mergeSort LinePlace.before

section Sorted

variable {items : List Value}

/-- Sorting keeps the places. -/
theorem mem_sortedMarks_iff {p : LinePlace} :
    p ∈ sortedMarks items ↔ p ∈ items.filterMap markedPlace? :=
  List.mem_mergeSort

/-- The places are sorted. -/
theorem pairwise_before_sortedMarks (items : List Value) :
    (sortedMarks items).Pairwise fun a b => a.before b = true :=
  List.pairwise_mergeSort LinePlace.before_trans LinePlace.before_total _

/-- Places of one line and column stand in the order of the line map. -/
theorem filter_sortedMarks (line column : Int) :
    (sortedMarks items).filter (fun p => p.line = line ∧ p.column = column) =
      (items.filterMap markedPlace?).filter fun p => p.line = line ∧ p.column = column := by
  refine filter_mergeSort_of_tied LinePlace.before_trans LinePlace.before_total (fun a b ha hb => ?_) _
  simp only [decide_eq_true_eq] at ha hb
  rw [LinePlace.before_iff]
  omega

/-- Of two places of a line, the first comes in a smaller column, or earlier in the line map in the same column. -/
theorem column_lt_or_of_idxOf_lt {p q : LinePlace} (hline : p.line = q.line) (hp : p ∈ sortedMarks items)
    (hq : q ∈ sortedMarks items) (hlt : (sortedMarks items).idxOf p < (sortedMarks items).idxOf q) :
    p.column < q.column ∨ p.column = q.column ∧
      (items.filterMap markedPlace?).idxOf p < (items.filterMap markedPlace?).idxOf q := by
  have hbefore : p.before q = true := by
    have hpos := List.idxOf_lt_length_of_mem hp
    have hqos := List.idxOf_lt_length_of_mem hq
    have h := List.pairwise_iff_getElem.mp (pairwise_before_sortedMarks items) _ _ hpos hqos hlt
    rwa [List.getElem_idxOf hpos, List.getElem_idxOf hqos] at h
  rw [LinePlace.before_iff] at hbefore
  by_cases hcolumn : p.column = q.column
  · -- A tie: among the places of this line and column nothing was moved.
    refine .inr ⟨hcolumn, ?_⟩
    let tied : LinePlace → Bool := fun r => r.line = q.line ∧ r.column = q.column
    have hp : tied p = true := decide_eq_true ⟨hline, hcolumn⟩
    have hq : tied q = true := decide_eq_true ⟨rfl, rfl⟩
    rw [← idxOf_filter_lt_iff tied _ hp hq, ← filter_sortedMarks, idxOf_filter_lt_iff tied _ hp hq]
    exact hlt
  · exact .inl (by omega)

end Sorted

namespace NodeIndex

/-! ### The pass -/

section Pass

variable (places : List LinePlace)

/-- Each node keeps the line of its first place. -/
theorem foldl_enter_lines (index : NodeIndex) :
    (places.foldl enter index).lines =
      (places.map fun p => (p.node, p.line)).foldl Entries.putNew index.lines := by
  induction places generalizing index with
  | nil => rfl
  | cons p rest ih =>
    rw [List.foldl_cons, ih]
    rfl

/-- A node is on the line of its first place. -/
theorem lineOf?_foldl_enter (node : Int) :
    (places.foldl enter {}).lineOf? (some node) = (places.find? fun p => p.node == node).map LinePlace.line := by
  have hfind := Entries.find?_filterMap (fun p : LinePlace => some p.node) LinePlace.line places node
  simp only [Option.map_some, List.filterMap_eq_map', Option.some_beq_some] at hfind
  show (places.foldl enter {}).lines.find? node = _
  rw [foldl_enter_lines, Entries.find?_foldl_putNew, hfind]
  rfl

/-- The nodes that have a line are those of the places, each once. -/
theorem keys_foldl_enter_lines :
    (places.foldl enter {}).lines.keys = (places.map LinePlace.node).eraseDups := by
  have hkeys : Entries.keys (places.map fun p => (p.node, p.line)) = places.map LinePlace.node := by
    rw [Entries.keys, List.map_map]
    rfl
  rw [foldl_enter_lines]
  show (List.foldl Entries.putNew [] _).keys = _
  rw [Entries.keys_foldl_putNew, hkeys]

/-- Each line lists the nodes of its places, each once. -/
theorem nodesOn_foldl_enter (line : Int) :
    (places.foldl enter {}).nodesOn line =
      ((places.filter fun p => p.line = line).map LinePlace.node).eraseDups := by
  induction places using List.reverseRecOn with
  | nil => rfl
  | append_singleton places p ih =>
    have henter : (places ++ [p]).foldl enter {} = (places.foldl enter {}).enter p := by
      rw [List.foldl_append]
      rfl
    rw [henter, List.filter_append]
    simp only [nodesOn, enter, Entries.find?_update] at ih ⊢
    by_cases hline : line = p.line
    · have hsingle : [p].filter (fun q => q.line = line) = [p] := by simp [hline]
      rw [hsingle, List.map_append, List.map_cons, List.map_nil, Entries.eraseDups_concat, if_pos hline,
        Option.getD_some, ← hline, ih]
      refine if_congr ?_ rfl rfl
      rw [List.contains_iff_mem, List.mem_eraseDups]
    · have hnone : [p].filter (fun q => q.line = line) = [] := by simp [Ne.symm hline]
      rw [hnone, List.append_nil, if_neg hline, ih]

end Pass

/-! ### Correct indexes -/

/-- The index of a line map: a node is on the smallest line on which it is marked; a line lists the
    nodes that are marked on it, each once, by the smallest columns of their marks and, in the same
    column, by the order of the line map; and the nodes are counted. -/
structure Indexes (index : NodeIndex) (items : List Value) : Prop where
  lineOf?_eq_some_iff : ∀ node line,
    index.lineOf? (some node) = some line ↔ IsLeast {other | MarkedOn items node other} line
  lineOf?_eq_none_iff : ∀ node, index.lineOf? (some node) = none ↔ ∀ line, ¬ MarkedOn items node line
  mem_nodesOn_iff : ∀ line node, node ∈ index.nodesOn line ↔ MarkedOn items node line
  nodup_nodesOn : ∀ line, (index.nodesOn line).Nodup
  pairwise_nodesOn : ∀ line, (index.nodesOn line).Pairwise (MarkedBefore items line)
  mem_nodesOn_of_lineOf? : ∀ node line, index.lineOf? (some node) = some line → node ∈ index.nodesOn line
  contains_iff : ∀ node, index.contains node = true ↔ ∃ line, MarkedOn items node line
  size_eq : ∃ nodes : List Int, nodes.Nodup ∧ (∀ node, node ∈ nodes ↔ ∃ line, MarkedOn items node line) ∧
    index.size = nodes.length

section Correct

variable (items : List Value)

/-- The index of the places that a line map marks. -/
def ofMarks : NodeIndex :=
  (sortedMarks items).foldl enter {}

variable {items}

/-- A node is marked on a line if one of the sorted places is of this node and on this line. -/
theorem exists_mem_sortedMarks_iff {node line : Int} :
    (∃ p ∈ sortedMarks items, p.node = node ∧ p.line = line) ↔ MarkedOn items node line := by
  simp only [mem_sortedMarks_iff, markedOn_iff]

/-- The first place of a node is on its smallest line. -/
theorem isLeast_of_find? {node : Int} {p : LinePlace}
    (h : (sortedMarks items).find? (fun p => p.node == node) = some p) :
    IsLeast {line | MarkedOn items node line} p.line := by
  obtain ⟨hnode, before, after, hsplit, hbefore⟩ := List.find?_eq_some_iff_append.mp h
  have hnode : p.node = node := beq_iff_eq.mp hnode
  -- Before the place that is found, no place is of the same node.
  have hfirst : FirstIn LinePlace.node (sortedMarks items) p := by
    refine ⟨before, after, hsplit, fun earlier hearlier heq => ?_⟩
    have hnot := hbefore earlier hearlier
    simp [heq, hnode] at hnot
  constructor
  · exact exists_mem_sortedMarks_iff.mp ⟨p, List.mem_of_find?_eq_some h, hnode, rfl⟩
  · intro line hmarked
    obtain ⟨q, hq, hqnode, rfl⟩ := exists_mem_sortedMarks_iff.mpr hmarked
    -- Places are sorted, so no other place of the node is before the first.
    rcases hfirst.rel_of_pairwise (pairwise_before_sortedMarks items) hq (hqnode.trans hnode.symm) with rfl | hle
    · exact le_refl _
    · rw [LinePlace.before_iff] at hle
      omega

/-- A node has no line if it is marked nowhere. -/
theorem lineOf?_ofMarks_eq_none_iff (node : Int) :
    (ofMarks items).lineOf? (some node) = none ↔ ∀ line, ¬ MarkedOn items node line := by
  rw [ofMarks, lineOf?_foldl_enter, Option.map_eq_none_iff, List.find?_eq_none]
  simp only [← exists_mem_sortedMarks_iff, beq_iff_eq]
  constructor
  · rintro hnone line ⟨p, hp, hnode, -⟩
    exact hnone p hp hnode
  · intro hnone p hp hnode
    exact hnone p.line ⟨p, hp, hnode, rfl⟩

/-- The line of a node is the smallest on which it is marked. -/
theorem lineOf?_ofMarks_eq_some_iff (node line : Int) :
    (ofMarks items).lineOf? (some node) = some line ↔ IsLeast {other | MarkedOn items node other} line := by
  have hleast : ∀ {line}, (ofMarks items).lineOf? (some node) = some line →
      IsLeast {other | MarkedOn items node other} line := by
    intro line h
    rw [ofMarks, lineOf?_foldl_enter, Option.map_eq_some_iff] at h
    obtain ⟨p, hfind, rfl⟩ := h
    exact isLeast_of_find? hfind
  constructor
  · exact hleast
  · -- The node is marked somewhere, so it has a line, and there is only one smallest.
    intro h
    cases hline : (ofMarks items).lineOf? (some node) with
    | none => exact absurd h.1 ((lineOf?_ofMarks_eq_none_iff node).mp hline line)
    | some other => rw [(hleast hline).unique h]

/-- A line lists the nodes that are marked on it. -/
theorem mem_nodesOn_ofMarks_iff (line node : Int) :
    node ∈ (ofMarks items).nodesOn line ↔ MarkedOn items node line := by
  rw [ofMarks, nodesOn_foldl_enter, List.mem_eraseDups, ← exists_mem_sortedMarks_iff]
  simp only [List.mem_map, List.mem_filter, decide_eq_true_eq]
  constructor
  · rintro ⟨p, ⟨hp, hline⟩, hnode⟩
    exact ⟨p, hp, hnode, hline⟩
  · rintro ⟨p, hp, hnode, hline⟩
    exact ⟨p, ⟨hp, hline⟩, hnode⟩

/-- The nodes in the index are those that are marked on some line. -/
theorem contains_ofMarks_iff (node : Int) :
    (ofMarks items).contains node = true ↔ ∃ line, MarkedOn items node line := by
  rw [contains, Entries.has, Entries.isSome_find?_iff, ofMarks, keys_foldl_enter_lines, List.mem_eraseDups]
  simp only [List.mem_map, ← exists_mem_sortedMarks_iff]
  constructor
  · rintro ⟨p, hp, hnode⟩
    exact ⟨p.line, p, hp, hnode, rfl⟩
  · rintro ⟨line, p, hp, hnode, -⟩
    exact ⟨p, hp, hnode⟩

/-- The first place of a node on a line is its first mark there. -/
theorem firstMark_of_firstIn {line : Int} {p : LinePlace}
    (h : FirstIn LinePlace.node ((sortedMarks items).filter fun q => q.line = line) p) :
    FirstMark items line p.node p.column (items.findIdx fun item => markedPlace? item == some p) := by
  have hmem := (mem_distinctBy_iff _ p).mpr h
  obtain ⟨hsorted, hline⟩ := List.mem_filter.mp ((distinctBy_sublist _).mem hmem)
  have hline : p.line = line := of_decide_eq_true hline
  subst hline
  constructor
  · obtain ⟨item, hitem, hmarked⟩ := List.mem_filterMap.mp (mem_sortedMarks_iff.mp hsorted)
    have hlt : items.findIdx (fun item => markedPlace? item == some p) < items.length :=
      List.findIdx_lt_length_of_exists ⟨item, hitem, by simp [hmarked]⟩
    refine ⟨_, List.getElem?_eq_getElem hlt, ?_⟩
    have hfound := List.findIdx_getElem (w := hlt)
    exact (markedPlace?_eq_some_iff _ p).mp (beq_iff_eq.mp hfound)
  · intro other item column' hother hmarks
    have hmarked := (markedPlace?_eq_some_iff item _).mpr hmarks
    have hq : (⟨p.line, column', p.node⟩ : LinePlace) ∈ (sortedMarks items).filter fun q => q.line = p.line := by
      have hmem := List.mem_filterMap.mpr ⟨item, List.mem_of_getElem? hother, hmarked⟩
      exact List.mem_filter.mpr ⟨mem_sortedMarks_iff.mpr hmem, decide_eq_true rfl⟩
    have hsame : p.column = column' → items.findIdx (fun item => markedPlace? item == some p) ≤ other := by
      -- A mark with the same column is a mark of the same place.
      rintro rfl
      by_contra hlt
      have hnot := List.not_of_lt_findIdx (Nat.lt_of_not_le hlt)
      obtain ⟨_, hget⟩ := List.getElem?_eq_some_iff.mp hother
      rw [hget, hmarked] at hnot
      simp at hnot
    have hsorted := (pairwise_before_sortedMarks items).sublist
      (List.filter_sublist (p := fun q => decide (q.line = p.line)))
    rcases h.rel_of_pairwise hsorted hq rfl with heq | hle
    · have hcolumn : p.column = column' := congrArg LinePlace.column heq
      exact .inr ⟨hcolumn, hsame hcolumn⟩
    · rw [LinePlace.before_iff] at hle
      by_cases hcolumn : p.column = column'
      · exact .inr ⟨hcolumn, hsame hcolumn⟩
      · exact .inl (by simp only [] at hle; omega)

/-- The nodes of a line stand in the order of their first marks. -/
theorem pairwise_nodesOn_ofMarks (line : Int) :
    ((ofMarks items).nodesOn line).Pairwise (MarkedBefore items line) := by
  rw [ofMarks, nodesOn_foldl_enter, ← map_distinctBy, List.pairwise_map]
  refine (pairwise_place_distinctBy _).imp_of_mem fun {p q} hp hq hlt => ?_
  have hpfirst := (mem_distinctBy_iff _ p).mp hp
  have hqfirst := (mem_distinctBy_iff _ q).mp hq
  obtain ⟨hpmem, hpline⟩ := List.mem_filter.mp ((distinctBy_sublist _).mem hp)
  obtain ⟨hqmem, hqline⟩ := List.mem_filter.mp ((distinctBy_sublist _).mem hq)
  have hsame : p.line = q.line := (of_decide_eq_true hpline).trans (of_decide_eq_true hqline).symm
  rw [← hpfirst.idxOf_eq, ← hqfirst.idxOf_eq,
    idxOf_filter_lt_iff (fun r : LinePlace => r.line = line) _ hpline hqline] at hlt
  -- The first marks are compared by the positions of their entries in the line map.
  refine ⟨_, _, _, _, firstMark_of_firstIn hpfirst, firstMark_of_firstIn hqfirst, ?_⟩
  rw [← idxOf_filterMap_lt_iff]
  exact column_lt_or_of_idxOf_lt hsame hpmem hqmem hlt

/-- The index of the places that a line map marks is correct. -/
theorem indexes_ofMarks (items : List Value) : (ofMarks items).Indexes items where
  lineOf?_eq_some_iff := lineOf?_ofMarks_eq_some_iff
  lineOf?_eq_none_iff := lineOf?_ofMarks_eq_none_iff
  mem_nodesOn_iff := mem_nodesOn_ofMarks_iff
  nodup_nodesOn line := by
    rw [ofMarks, nodesOn_foldl_enter]
    exact Entries.nodup_eraseDups _
  pairwise_nodesOn := pairwise_nodesOn_ofMarks
  mem_nodesOn_of_lineOf? node line h :=
    (mem_nodesOn_ofMarks_iff line node).mpr ((lineOf?_ofMarks_eq_some_iff node line).mp h).1
  contains_iff := contains_ofMarks_iff
  size_eq := by
    refine ⟨(ofMarks items).lines.keys, ?_, fun node => ?_, (List.length_map ..).symm⟩
    · rw [ofMarks, keys_foldl_enter_lines]
      exact Entries.nodup_eraseDups _
    · rw [← Entries.isSome_find?_iff]
      exact contains_ofMarks_iff node

end Correct

/-! ### Line maps that are the same up to their order -/

section Order

variable {items other : List Value} {index index' : NodeIndex}

/-- What an index says about nodes and lines is determined by what is marked. -/
theorem Indexes.lineOf?_eq (h : index.Indexes items) (h' : index'.Indexes other)
    (hmarked : ∀ node line, MarkedOn items node line ↔ MarkedOn other node line) (node : Option Int) :
    index'.lineOf? node = index.lineOf? node := by
  cases node with
  | none => rfl
  | some node =>
    refine Option.ext fun line => ?_
    rw [h.lineOf?_eq_some_iff, h'.lineOf?_eq_some_iff]
    simp only [hmarked]

/-- Where the same nodes are marked on the same lines, the same nodes are counted. -/
theorem Indexes.size_eq_size (h : index.Indexes items) (h' : index'.Indexes other)
    (hmarked : ∀ node line, MarkedOn items node line ↔ MarkedOn other node line) :
    index'.size = index.size := by
  obtain ⟨nodes, hnodup, hnodes, hsize⟩ := h.size_eq
  obtain ⟨nodes', hnodup', hnodes', hsize'⟩ := h'.size_eq
  -- Two lists without repetition that have the same elements are permutations of each other.
  have hperm : nodes'.Perm nodes := by
    refine (List.perm_ext_iff_of_nodup hnodup' hnodup).mpr fun node => ?_
    rw [hnodes, hnodes']
    simp only [hmarked]
  rw [hsize, hsize', hperm.length_eq]

/-- Whether a node is marked on a line does not depend on the order of the line map. -/
theorem MarkedOn.perm (h : items.Perm other) (node line : Int) :
    MarkedOn items node line ↔ MarkedOn other node line := by
  simp only [MarkedOn, h.mem_iff]

end Order

/-- Only the places that are marked are entered. -/
theorem ofRaw_eq {items : List Value} (h : ∀ item ∈ items, item.isSequence = true) :
    ofRaw (.arr items) = .ok (ofMarks items) := by
  obtain ⟨places, hplaces, hmarked⟩ := exists_placesOfRaw h
  rw [ofRaw, hplaces]
  show Except.ok (ofPlaces places) = _
  rw [ofPlaces, hmarked]
  rfl

/-- **The index of a line map.** Every line map of sequences has an index, and this is correct: it says of each node
    its smallest line, and of each line its nodes, without repetition, by smallest column and then in the order
    of the line map; a node is listed on its line; and the nodes are counted.  An entry that is not three
    integers, or whose line does not exist, can be left out.  A permutation of the line map changes neither the
    line of a node, nor the number of nodes, nor which nodes there are, on any line. -/
theorem ofRaw_indexes (items : List Value) (hitems : ∀ item ∈ items, item.isSequence = true) :
    ∃ index, ofRaw (.arr items) = .ok index ∧ index.Indexes items ∧
      (∀ before item after, items = before ++ item :: after → (∀ p, ¬ Marks item p) →
        ofRaw (.arr (before ++ after)) = .ok index) ∧
      ∀ other : List Value, items.Perm other → ∃ index', ofRaw (.arr other) = .ok index' ∧
        (∀ node, index'.lineOf? node = index.lineOf? node) ∧ index'.size = index.size ∧
        (∀ node, index'.contains node = index.contains node) ∧
        ∀ line node, node ∈ index'.nodesOn line ↔ node ∈ index.nodesOn line := by
  have hindex := indexes_ofMarks items
  refine ⟨ofMarks items, ofRaw_eq hitems, hindex, ?_, fun other hperm => ?_⟩
  · rintro before item after rfl hnone
    have hrest : ∀ kept ∈ before ++ after, kept.isSequence = true := by
      intro kept hkept
      refine hitems kept ?_
      rcases List.mem_append.mp hkept with hkept | hkept
      · exact List.mem_append_left _ hkept
      · exact List.mem_append_right _ (List.mem_cons_of_mem _ hkept)
    -- An item that marks nothing is dropped before the marks are sorted.
    have hskip : markedPlace? item = none := by
      refine Option.eq_none_iff_forall_ne_some.mpr fun p hp => ?_
      exact hnone p ((markedPlace?_eq_some_iff item p).mp hp)
    rw [ofRaw_eq hrest]
    simp only [ofMarks, sortedMarks, List.filterMap_append, List.filterMap_cons_none hskip]
  · -- `Indexes` determines every answer by what is marked on which line, and a permutation keeps that.
    have hother : ∀ item ∈ other, item.isSequence = true := fun item hitem => hitems item (hperm.mem_iff.mpr hitem)
    have hindex' := indexes_ofMarks other
    have hmarked := MarkedOn.perm hperm
    refine ⟨ofMarks other, ofRaw_eq hother, hindex.lineOf?_eq hindex' hmarked,
      hindex.size_eq_size hindex' hmarked, fun node => ?_, fun line node => ?_⟩
    · rw [Bool.eq_iff_iff, hindex.contains_iff, hindex'.contains_iff]
      simp only [hmarked]
    · rw [hindex.mem_nodesOn_iff, hindex'.mem_nodesOn_iff, hmarked]

/-- A line map with two nodes that start in one column, a node on several lines, and entries that do
    not count: a line that does not exist, a truth value in the place of an integer, two integers, and
    a text. -/
def lineMapWithTie : List Value :=
  [.arr [.int 3, .int 6, .int 8], .arr [.int 2, .int 4, .int 7], .arr [.int 0, .int 0, .int 5],
    .arr [.int 3, .int 1, .int 8], .arr [.int 3, .int 1, .int 7], .arr [.int 1, .bool true, .int 5],
    .arr [.int 3, .int 0], .str "abc"]

/-- The two places of line 3 and column 1 keep their order. -/
theorem sortedMarks_lineMapWithTie :
    sortedMarks lineMapWithTie = [⟨2, 4, 7⟩, ⟨3, 1, 8⟩, ⟨3, 1, 7⟩, ⟨3, 6, 8⟩] := by
  cbv

/-- Node 7 is on the smaller of its lines, node 5 on none, and node 8 comes first on line 3. -/
theorem ofRaw_indexes_of_lineMapWithTie :
    (∀ item ∈ lineMapWithTie, item.isSequence = true) ∧
      ∃ index, ofRaw (.arr lineMapWithTie) = .ok index ∧ index.Indexes lineMapWithTie ∧
        index.lineOf? (some 7) = some 2 ∧ index.lineOf? (some 5) = none ∧ index.nodesOn 3 = [8, 7] ∧
        index.size = 2 := by
  have hitems : ∀ item ∈ lineMapWithTie, item.isSequence = true := by decide
  obtain ⟨index, hindex, hcorrect, -⟩ := ofRaw_indexes lineMapWithTie hitems
  obtain rfl : ofMarks lineMapWithTie = index := Except.ok.inj ((ofRaw_eq hitems).symm.trans hindex)
  refine ⟨hitems, _, hindex, hcorrect, ?_⟩
  rw [ofMarks, sortedMarks_lineMapWithTie]
  decide

end NodeIndex

end RangeAudit
