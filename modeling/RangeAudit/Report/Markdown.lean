import RangeAudit.Report.Basic

namespace RangeAudit

/-!
# Reports to read

A report in Markdown: a summary, the domains of the function, the marked lines as a table, and the
domain changes along the selected path. A bar inside a table cell is written with a backslash before
it, so that it does not end the cell.
-/

namespace Markdown

/-- The text of a table cell. -/
def cell (text : String) : String :=
  Text.replaceChar '|' ['\\', '|'] text

/-- A row of cells between bars. -/
def row (cells : List String) : String :=
  "| " ++ " | ".intercalate cells ++ " |"

/-- The rule under a heading: as long as the heading, but at least three dashes. -/
def dashes (heading : String) : String :=
  String.ofList (List.replicate (max heading.length 3) '-')

/-- The lines of a table. -/
def table (headings : List String) (rows : List (List String)) : List String :=
  row headings :: ("|" ++ "|".intercalate (headings.map dashes) ++ "|") ::
    rows.map fun cells => row (cells.map cell)

/-- A list of items, or a word that there are none. -/
def itemsOrNone (items : List String) : List String :=
  if items.isEmpty then ["- none"] else items

end Markdown

open Markdown

/-- The level of a line in a table. -/
def RiskLevel.title (level : RiskLevel) : String :=
  Text.capitalize level.name

namespace Report

/-- The kinds of findings as a table; nothing without findings. -/
def checkTable (p : RiskProfile) : List String :=
  if p.checks.isEmpty then []
  else
    table ["Check", "Count", "Level"]
      (p.checks.map fun c => [c.check, Numeral.render c.count, c.level.title]) ++ [""]

/-- The risks in summary. -/
def summaryLines (r : Report) : List String :=
  let p := r.profile
  ["## Summary\n",
    s!"- **Paths:** {r.paths.length} ({(r.paths.filter PathTrace.feasible).length} feasible)",
    s!"- **Overall Max Level:** {p.overall.title}",
    s!"- **Weighted Score:** {p.score}",
    ""] ++ checkTable p

/-- The domains of a summary. -/
def domainLines (s : FunctionSummary) : List String :=
  ["## Domains\n"]
  ++ s.paramTexts.map (fun param => s!"- param[{param.1}]: {param.2}")
  ++ (s.returnRange.map fun range => s!"- return: {range.render}").toList
  ++ s.writeTexts.map (fun write => s!"- writes {write.1}: {write.2}")
  ++ [""]

/-- What stands in the margin of a line, in one text. -/
def marginText (line : MarginLine) : String :=
  "; ".intercalate
    ((line.risk.map LineRisk.descriptions).getD [] ++ line.ranges.map RangeNote.text ++
      (line.badge.map Badge.text).toList)

/-- The table row of a marked line. -/
def lineRow (line : MarginLine) : List String :=
  [Numeral.render line.number, (line.risk.map fun risk => risk.level.title).getD "-",
    "`" ++ Text.trim line.text ++ "`", marginText line]

/-- The marked lines. -/
def markedTable (r : Report) : List String :=
  ["## Annotated Lines\n"]
  ++ (if r.markedLines.isEmpty then ["- none"]
      else table ["Line", "Level", "Source", "Notes"] (r.markedLines.map lineRow))
  ++ [""]

/-- The domain changes along the selected path. -/
def pathLines (r : Report) (index : Int) : List String :=
  ["## Path #" ++ Numeral.render index ++ " Domain Changes\n"]
  ++ itemsOrNone (r.changedSteps.map fun step =>
      s!"- step {step.1}: " ++ ", ".intercalate (step.2.map VarDiff.text))
  ++ [""]

/-- A report made at a moment, in Markdown. -/
def markdown (r : Report) (timestamp : String) : String :=
  "\n".intercalate <|
    ["# Range Audit Report: " ++ r.contractName ++ "." ++ r.functionName,
      "\nGenerated: " ++ timestamp ++ "\n"]
    ++ r.summaryLines
    ++ (r.summary.map domainLines).getD []
    ++ r.markedTable
    ++ (r.pathIndex.map r.pathLines).getD []

end Report

end RangeAudit
