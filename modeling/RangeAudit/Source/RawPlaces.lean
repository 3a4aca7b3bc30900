import RangeAudit.Fault
import RangeAudit.Source.NodeIndex

namespace RangeAudit

/-!
# Line maps that were not read

A line map may be given as it came, before its numbers were read. Here only proper integers count: an
entry with three of them is a place, any other sequence is left out, and what is no sequence at all is
a fault.
-/

open Wire (Value)

/-- A place, from a sequence of three integers; nothing for other sequences. -/
def LinePlace.ofRaw? : Value → Except Fault (Option LinePlace)
  | .arr [.int line, .int column, .int node] => .ok (some ⟨line, column, node⟩)
  | .arr _ | .obj _ | .str _ => .ok none
  | v => .error (.notSized v.typeName)

/-- The places of a line map. The elements of texts and objects are texts, hence no places. -/
def placesOfRaw : Value → Except Fault (List LinePlace)
  | .arr items => do
    let places ← items.mapM LinePlace.ofRaw?
    return places.filterMap id
  | .obj _ | .str _ => .ok []
  | v => .error (.notIterable v.typeName)

/-- The index of a line map as it came. -/
def NodeIndex.ofRaw (lineMap : Value) : Except Fault NodeIndex :=
  (placesOfRaw lineMap).map NodeIndex.ofPlaces

end RangeAudit
