import RangeAudit.Analysis.Reading

namespace RangeAudit

/-!
# Archives

An archive is an exported analysis: the contracts, and sections that give by contract name or by node
and function id what was exported about each. Only the contract list is read when the archive is
opened; everything else is read when it is asked for, and may turn out to be unacceptable then.

* `Archive.ofDecoded` : the archive of a decoded document;
* `Archive.analysis`, `Archive.detail`, `Archive.source`, `Archive.flowGraph` : what it answers.
-/

open Wire (Value)

/-- An exported analysis, with the sections as they were exported. -/
structure Archive where
  contracts : List Contract := []
  analyses : Entries String Value := []
  details : Entries Int Value := []
  sources : Entries Int Value := []
  flowGraphs : Entries Int Value := []
  deriving Inhabited

namespace Archive

/-- A section by id. Keys that write no integer are left out; of keys that write the same integer the
    last prevails. An absent section is empty. -/
def keyedSection (name : String) : Value → Except Fault (Entries Int Value)
  | .null => .ok []
  | .obj fields =>
    .ok (Entries.ofList (fields.filterMap fun field =>
      (Numeral.parse? field.1).map fun id => (id, field.2)))
  | _ => .error (.sectionNotObject name)

/-- The analyses by contract name. An absent section is empty. -/
def analysesSection : Value → Except Fault (Entries String Value)
  | .null => .ok []
  | .obj fields => .ok (Entries.ofList fields)
  | _ => .error (.sectionNotObject "analyses")

/-- The contract list; an absent one is empty. -/
def contractsSection : Value → Except Fault (List Contract)
  | .null => .ok []
  | v => contractsOfWire v

/-- The archive of a decoded document. -/
def ofDecoded (v : Value) : Except Fault Archive :=
  if v.isObject then do
    let contracts ← contractsSection (v.field "contracts")
    let analyses ← analysesSection (v.field "analyses")
    let details ← keyedSection "pathDetail" (v.field "pathDetail")
    let sources ← keyedSection "sources" (v.field "sources")
    let flowGraphs ← keyedSection "cfgs" (v.field "cfgs")
    return { contracts, analyses, details, sources, flowGraphs }
  else .error (.rootNotObject .dump)

/-- The archive of a document given as a text. -/
def ofText (text : String) : Except Fault Archive :=
  decodeDocument .dump (.str text) >>= ofDecoded

/-- The archive in the content of a file. -/
def ofFile (content : String) : Except Fault Archive :=
  decodeFile .dump content >>= ofDecoded

/-- The analysis of a contract. -/
def analysis (a : Archive) (name : String) : Except Fault Analysis :=
  match a.analyses.find? name with
  | none => .error (.noAnalysis name)
  | some v => Analysis.ofWire v

/-- The detailed paths that were exported for a function, if any were. -/
def exportedDetail? (a : Archive) (functionId : Int) : Option Value :=
  match a.details.find? functionId with
  | some .null => none
  | found => found

/-- The source of a node; the empty source if none was exported. -/
def source (a : Archive) (nodeId : Int) : Except Fault MappedSource :=
  match a.sources.find? nodeId with
  | none | some .null => .ok {}
  | some v => MappedSource.ofWire v

/-- The control-flow graph of a function, which is passed on as it is; only objects are graphs. -/
def flowGraph (a : Archive) (functionId : Int) : Option Value :=
  match a.flowGraphs.find? functionId with
  | some (.obj fields) => some (.obj fields)
  | _ => none

end Archive

/-- The paths that an analysis gives for a function; none if it does not know the function. -/
def Analysis.pathsOf (a : Analysis) (functionId : Int) : List PathTrace :=
  ((a.function? functionId).map FunctionAnalysis.paths).getD []

end RangeAudit
