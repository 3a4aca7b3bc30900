import RangeAudit.Report.Basic
import RangeAudit.Wire.Writer

namespace RangeAudit

/-!
# Report documents

A report as a document for other programs. Parts that a function does not have are left out: the
domains without a summary, the selected path without a selection.
-/

open Wire (Value)

/-- A text, or `null`. -/
def optionalText : Option String → Value
  | some text => .str text
  | none => .null

/-- A list of texts. -/
def textList (texts : List String) : Value :=
  .arr (texts.map Value.str)

/-- The document of a line's risk. -/
def LineRisk.document (risk : LineRisk) : Value :=
  .obj [("level", .str risk.level.name), ("glyph", .str risk.level.glyph),
    ("descriptions", textList risk.descriptions)]

/-- The document of a domain change beside a line. -/
def RangeNote.document (note : RangeNote) : Value :=
  .obj [("var", .str note.name), ("kind", .str note.kind.name), ("from", optionalText note.previous),
    ("to", .str note.domain)]

/-- The document of a badge. -/
def Badge.document (badge : Badge) : Value :=
  .obj [("text", .str badge.text), ("kind", .str badge.kind.name)]

/-- The document of a line. -/
def MarginLine.document (line : MarginLine) : Value :=
  .obj [("line", .int line.number), ("text", .str line.text),
    ("risk", (line.risk.map LineRisk.document).getD .null),
    ("ranges", .arr (line.ranges.map RangeNote.document)),
    ("badge", (line.badge.map Badge.document).getD .null)]

/-- The document of a finding. -/
def ArithCheck.document (c : ArithCheck) : Value :=
  .obj [("op_node", .int c.node), ("check", .str c.check), ("severity", .str c.severity),
    ("bound", .str c.bound)]

/-- The document of an inlined call. -/
def InlinedCall.document (c : InlinedCall) : Value :=
  .obj [("callee", .str c.calleeName), ("call_node", .int c.callNode), ("paths", .int c.calleePaths)]

/-- The document of a path. -/
def PathTrace.document (p : PathTrace) : Value :=
  .obj [("index", .int p.index), ("exit", .str p.exit.name), ("feasible", .bool p.feasible),
    ("steps", .int p.steps.length), ("constraints", .int p.constraintCount),
    ("arith_checks", .arr (p.checks.map ArithCheck.document)),
    ("inlined_calls", .arr (p.calls.map InlinedCall.document))]

/-- The document of a change at a step. -/
def VarDiff.document (diff : VarDiff) : Value :=
  .obj [("var", .str diff.name), ("kind", .str diff.kind.name), ("from", optionalText diff.old),
    ("to", .str diff.new)]

/-- The document of the risks in summary. -/
def RiskProfile.document (p : RiskProfile) : Value :=
  .obj [("overall_max_level", .str p.overall.name),
    ("lines_by_level", .obj (p.lineCounts.map fun entry => (entry.1.name, .int entry.2))),
    ("weighted_score", .int p.score),
    ("checks", .obj (p.checks.map fun c =>
      (c.check, .obj [("count", .int c.count), ("level", .str c.level.name)])))]

/-- The document of the domains of a summary. -/
def FunctionSummary.document (s : FunctionSummary) : Value :=
  .obj [("params", .obj (s.paramTexts.map fun param => (param.1, .str param.2))),
    ("return", optionalText (s.returnRange.map Bound.render)),
    ("state_writes", .obj (s.writeTexts.map fun write => (write.1, .str write.2)))]

namespace Report

/-- The document of the changes along the selected path. -/
def pathDocument (r : Report) (index : Int) : Value :=
  .obj [("index", .int index),
    ("steps", .arr (r.changedSteps.map fun step =>
      .obj [("step", .int step.1), ("diffs", .arr (step.2.map VarDiff.document))]))]

/-- The members of the document of a report made at a moment. -/
def members (r : Report) (timestamp : String) : List (String × Value) :=
  [("contract", .str r.contractName), ("function", .str r.functionName), ("timestamp", .str timestamp),
    ("paths", .obj [("total", .int r.paths.length),
      ("feasible", .int (r.paths.filter PathTrace.feasible).length),
      ("items", .arr (r.paths.map PathTrace.document))]),
    ("risk_profile", r.profile.document),
    ("lines", .arr (r.markedLines.map MarginLine.document))]
  ++ (r.summary.map fun s => ("domains", s.document)).toList
  ++ (r.pathIndex.map fun k => ("selected_path", r.pathDocument k)).toList

/-- The indented document of a report made at a moment. -/
def json (r : Report) (timestamp : String) : String :=
  (Value.obj (r.members timestamp)).pretty

end Report

end RangeAudit
