import RangeAudit.Analysis.Basic

namespace RangeAudit

/-!
# The node index

From the places of a displayed source: the line of each syntax node and the nodes of each line. A node
that has several places is on the line of the first by position; a line lists each of its nodes once,
in the order of their columns.
-/

/-- Where the syntax nodes of a source are. Lines are counted from one. -/
structure NodeIndex where
  lines : Entries Int Int := []
  nodes : Entries Int (List Int) := []
  deriving DecidableEq, Inhabited

namespace LinePlace

/-- Places are ordered by line, then by column. -/
def before (a b : LinePlace) : Bool :=
  if a.line = b.line then a.column ≤ b.column else a.line ≤ b.line

/-- A place counts if its line exists. -/
def onLine (p : LinePlace) : Bool :=
  1 ≤ p.line

end LinePlace

namespace NodeIndex

/-- Enter one place: the node keeps a line that it has, the line keeps a node that it lists. -/
def enter (index : NodeIndex) (p : LinePlace) : NodeIndex where
  lines := if index.lines.has p.node then index.lines else index.lines.put p.node p.line
  nodes := index.nodes.update p.line [] fun nodes =>
    if nodes.contains p.node then nodes else nodes ++ [p.node]

/-- The index of a list of places, which may come in any order. -/
def ofPlaces (places : List LinePlace) : NodeIndex :=
  ((places.filter LinePlace.onLine).mergeSort LinePlace.before).foldl enter {}

/-- The line of a node. -/
def lineOf? (index : NodeIndex) (node : Option Int) : Option Int :=
  node.bind index.lines.find?

/-- The nodes of a line. -/
def nodesOn (index : NodeIndex) (line : Int) : List Int :=
  (index.nodes.find? line).getD []

/-- The number of nodes. -/
def size (index : NodeIndex) : Nat :=
  index.lines.length

/-- Is the node on some line? -/
def contains (index : NodeIndex) (node : Int) : Bool :=
  index.lines.has node

end NodeIndex

end RangeAudit
