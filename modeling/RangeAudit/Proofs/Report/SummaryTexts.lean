import Mathlib.Data.List.Count
import Mathlib.Data.List.Nodup
import RangeAudit.Analysis.Reading
import RangeAudit.Proofs.Entries.LastValue
import RangeAudit.Proofs.Interleaving.World
import RangeAudit.Proofs.Numeral.Characters
import RangeAudit.Report.Document
import RangeAudit.Report.Markdown

namespace RangeAudit

/-!
# What a report shows of a summary

The summary of a function lists ranges of parameters and of writes.  A report puts them under the position of
the parameter and under the name of the variable, and there is one text under each.  So of several ranges for
one position, or of variables that share their name, it shows the last one only.

* `FunctionSummary.shown` — the texts in the document of a summary, and `FunctionSummary.domainLines_eq` those in
  a report to read;
* `FunctionSummary.ShowsParams`, `FunctionSummary.ShowsWrites` — it has all that the summary lists;
* `FunctionSummary.showsParams_iff`, `FunctionSummary.showsWrites_iff` — which is the case if and only if no
  position and no name is repeated;
* `FunctionSummary.shown_iff` — all that a report shows of a summary.

`FunctionSummary.not_always_shown` gives the summary of an analysis with two writes and two ranges of parameters,
of which a report shows one each.
-/

namespace FunctionSummary

variable (s : FunctionSummary)

/-- The ranges of the parameters as texts, with their positions. -/
def paramPairs : List (Int × String) :=
  s.paramRanges.map fun param => (param.1, param.2.render)

/-- The ranges of the writes as texts, with the names of the variables. -/
def writePairs : List (String × String) :=
  s.stateWrites.map fun write => (write.varName, write.bound.render)

/-- The texts under a member of the document of a summary. -/
def shown (member : String) : List (String × String) :=
  match s.document.field member with
  | .obj texts => texts.filterMap fun entry => entry.2.text?.map fun text => (entry.1, text)
  | _ => []

/-- Every range of a parameter is shown as often as the summary lists it. -/
def ShowsParams : Prop :=
  ∀ index text, (s.shown "params").count (Numeral.render index, text) = s.paramPairs.count (index, text)

/-- Every range of a write is shown as often as the summary lists it. -/
def ShowsWrites : Prop :=
  ∀ name text, (s.shown "state_writes").count (name, text) = s.writePairs.count (name, text)

/-! ### The document of a summary -/

/-- Entries that are written as a document are read from it. -/
theorem filterMap_text?_map_str (entries : Entries String String) :
    (entries.map fun entry => (entry.1, Wire.Value.str entry.2)).filterMap
      (fun entry => entry.2.text?.map fun text => (entry.1, text)) = entries := by
  rw [List.filterMap_map]
  exact List.filterMap_some

/-- The document has the texts of the parameters. -/
theorem shown_eq_paramTexts : s.shown "params" = s.paramTexts :=
  filterMap_text?_map_str s.paramTexts

/-- The document has the texts of the writes, one under each name. -/
theorem shown_writes : s.shown "state_writes" = Entries.ofList s.writePairs :=
  filterMap_text?_map_str s.writeTexts

/-- A report to read has a line for each of the texts in the document. -/
theorem domainLines_eq :
    Report.domainLines s =
      ["## Domains\n"] ++ (s.shown "params").map (fun param => s!"- param[{param.1}]: {param.2}") ++
        (s.returnRange.map fun range => s!"- return: {range.render}").toList ++
        (s.shown "state_writes").map (fun write => s!"- writes {write.1}: {write.2}") ++ [""] := by
  rw [shown_eq_paramTexts, shown_writes]
  rfl

/-- The positions of parameters are shown as numerals. -/
theorem shown_params :
    s.shown "params" = (Entries.ofList s.paramPairs).map fun param => (Numeral.render param.1, param.2) := by
  have hpairs : (s.paramRanges.map fun param => (Numeral.render param.1, param.2.render)) =
      s.paramPairs.map fun param => (Numeral.render param.1, param.2) := by
    rw [paramPairs, List.map_map]
    rfl
  rw [shown_eq_paramTexts, ← Entries.ofList_map_key Numeral.render_injective, ← hpairs]
  rfl

/-! ### What is shown -/

/-- Different positions have different numerals. -/
theorem injective_renderFst :
    Function.Injective fun param : Int × String => (Numeral.render param.1, param.2) := by
  rintro ⟨index, text⟩ ⟨index', text'⟩ h
  simpa [Numeral.render_injective.eq_iff] using h

/-- The texts of the parameters are listed with their positions. -/
theorem map_fst_paramPairs : s.paramPairs.map Prod.fst = s.paramRanges.map Prod.fst := by
  rw [paramPairs, List.map_map]
  rfl

/-- The texts of the writes are listed with the names of their variables. -/
theorem map_fst_writePairs : s.writePairs.map Prod.fst = s.stateWrites.map StateWrite.varName := by
  rw [writePairs, List.map_map]
  rfl

/-- All ranges of parameters are shown if and only if each has a position of its own. -/
theorem showsParams_iff : s.ShowsParams ↔ (s.paramRanges.map Prod.fst).Nodup := by
  rw [← map_fst_paramPairs, ← Entries.count_ofList_eq_iff, ShowsParams, shown_params, Prod.forall]
  refine forall₂_congr fun index text => ?_
  have hcount := List.count_map_of_injective (Entries.ofList s.paramPairs) _ injective_renderFst (index, text)
  rw [← hcount]

/-- All ranges of writes are shown if and only if each has a name of its own. -/
theorem showsWrites_iff : s.ShowsWrites ↔ (s.stateWrites.map StateWrite.varName).Nodup := by
  rw [← map_fst_writePairs, ← Entries.count_ofList_eq_iff, ShowsWrites, shown_writes, Prod.forall]

/-- Under a position, the last range that the summary lists for it is shown. -/
theorem mem_shown_params_iff (key text : String) :
    (key, text) ∈ s.shown "params" ↔
      ∃ index, Numeral.render index = key ∧ Entries.LastIn s.paramPairs (index, text) := by
  simp only [shown_params, List.mem_map, Prod.mk.injEq, ← Entries.mem_ofList_iff]
  constructor
  · rintro ⟨⟨index, _⟩, hmem, hkey, rfl⟩
    exact ⟨index, hkey, hmem⟩
  · rintro ⟨index, hkey, hmem⟩
    exact ⟨(index, text), hmem, hkey, rfl⟩

/-- **What a report shows of a summary.** For every summary, the report shows all ranges of parameters, each as
    often as the summary lists it, if and only if no two have one position; and all ranges of writes, if and
    only if no two have one name.  In any case it shows under every position, and under every name, the last
    range that the summary lists for it, and nothing besides. -/
theorem shown_iff :
    (s.ShowsParams ↔ (s.paramRanges.map Prod.fst).Nodup) ∧
    (s.ShowsWrites ↔ (s.stateWrites.map StateWrite.varName).Nodup) ∧
    (∀ key text, (key, text) ∈ s.shown "params" ↔
      ∃ index, Numeral.render index = key ∧ Entries.LastIn s.paramPairs (index, text)) ∧
    (∀ name text, (name, text) ∈ s.shown "state_writes" ↔ Entries.LastIn s.writePairs (name, text)) ∧
    ((s.shown "params").map Prod.fst).Nodup ∧ ((s.shown "state_writes").map Prod.fst).Nodup := by
  refine ⟨s.showsParams_iff, s.showsWrites_iff, s.mem_shown_params_iff, fun name text => ?_, ?_, ?_⟩
  · rw [shown_writes, Entries.mem_ofList_iff]
  · have hkeys := List.Nodup.map Numeral.render_injective (Entries.nodup_keys_ofList s.paramPairs)
    rw [Entries.keys, List.map_map] at hkeys
    rw [shown_params, List.map_map]
    exact hkeys
  · rw [shown_writes]
    exact Entries.nodup_keys_ofList s.writePairs

/-- An analysis with a summary of two writes, to variables of one name, and of two parameters without
    a position. -/
def analysisOfNamesakes : Wire.Value :=
  .obj [("summaries", .arr [.obj [("functionId", .int 10),
    ("paramRanges", .arr [.obj [("min", .int 0), ("max", .int 5)], .obj [("min", .int 7), ("max", .int 9)]]),
    ("stateWrites", .arr
      [.obj [("varId", .int 5), ("varName", .str "total"), ("min", .int 0), ("max", .int 5)],
       .obj [("varId", .int 6), ("varName", .str "total"), ("min", .int 7), ("max", .int 9)]])]])]

/-- The summary in the analysis. -/
def summaryOfNamesakes : FunctionSummary where
  functionId := 10
  functionName := ""
  paramRanges := [(0, { low := some 0, high := some 5 }), (0, { low := some 7, high := some 9 })]
  stateWrites :=
    [{ varId := 5, varName := "total", bound := { low := some 0, high := some 5 } },
     { varId := 6, varName := "total", bound := { low := some 7, high := some 9 } }]

/-- The analysis is read, with this summary. -/
theorem ofWire_analysisOfNamesakes :
    Analysis.ofWire analysisOfNamesakes = .ok { summaries := [summaryOfNamesakes] } := by
  refine Except.toOption_eq_some.mp ?_
  decide +kernel

/-- **A report need not show all of a summary.** There is an analysis with a summary of which neither all ranges
    of parameters are shown nor all ranges of writes, although no two writes are to the same variable. -/
theorem not_always_shown :
    ¬ ∀ (v : Wire.Value) (analysis : Analysis) (s : FunctionSummary), Analysis.ofWire v = .ok analysis →
      s ∈ analysis.summaries → (s.stateWrites.map StateWrite.varId).Nodup → s.ShowsParams ∨ s.ShowsWrites := by
  intro h
  have hshown := h analysisOfNamesakes _ summaryOfNamesakes ofWire_analysisOfNamesakes List.mem_cons_self
    (by decide)
  rw [showsParams_iff, showsWrites_iff] at hshown
  revert hshown
  decide

end FunctionSummary

end RangeAudit
