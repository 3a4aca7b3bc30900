import RangeAudit.Proofs.Margin.MergedLines
import RangeAudit.Proofs.Numeral.Characters
import RangeAudit.Proofs.Report.GateReach
import RangeAudit.Proofs.Text.Trimming
import RangeAudit.Report.Markdown

namespace RangeAudit

/-!
# Reading tables

A row of a table is read by cutting it at its bars, except where a backslash stands before the bar.  Since a
bar inside a cell is written with a backslash, every row of cells is read back as it was, whatever the cells
are.  A table is read line by line, though, and a line feed inside a cell is written as it is: the row then goes
on in another line.

* `Markdown.readRow` — the cells that a line is read as;
* `Markdown.readRow_row` — a row of cells is read back;
* `Markdown.length_linesOf_tableText` — the lines of a table: its rows, and one more for every line feed;
* `Markdown.ReadsBack`, `Markdown.readsBack_iff` — a table is read back if and only if its texts are single
  lines;
* `Markdown.readsBack_table` — the lines of a table, and what they are read as;
* `World.readsBack_tables_iff` — what this means for the two tables of a report.

`World.not_always_readsBack` gives a run whose report has a kind of findings of two lines.
-/

namespace Markdown

/-! ### Reading a row -/

/-- The characters with a backslash before each bar. -/
def escaped (cs : List Char) : List Char :=
  cs.flatMap fun c => if c = '|' then ['\\', '|'] else [c]

/-- The characters without the backslashes that stand before a bar. -/
def unescaped : List Char → List Char
  | '\\' :: '|' :: rest => '|' :: unescaped rest
  | c :: rest => c :: unescaped rest
  | [] => []

/-- The pieces between the bars, behind a character; a bar right behind a backslash belongs to its piece. -/
def cutAtBars (before : Option Char) : List Char → List (List Char)
  | [] => [[]]
  | c :: rest =>
    if c = '|' ∧ before ≠ some '\\' then [] :: cutAtBars (some c) rest
    else (cutAtBars (some c) rest).modifyHead (c :: ·)

/-- The characters without one blank in front and one at the end. -/
def unpadded (piece : List Char) : List Char :=
  Text.dropFinal ' ' (match piece with
    | ' ' :: rest => rest
    | _ => piece)

/-- The cells that a line is read as: what it has between its first and its last bar. -/
def readRow (line : String) : List String :=
  ((cutAtBars none line.toList).drop 1).dropLast.map fun piece => String.ofList (unescaped (unpadded piece))

/-! ### Bars and backslashes -/

theorem escaped_bar (cs : List Char) : escaped ('|' :: cs) = '\\' :: '|' :: escaped cs := rfl

/-- Any other character is written as it is. -/
theorem escaped_cons {c : Char} (h : c ≠ '|') (cs : List Char) : escaped (c :: cs) = c :: escaped cs := by
  rw [escaped, List.flatMap_cons, if_neg h]
  rfl

/-- What is written for a text does not begin with a bar. -/
theorem head?_escaped_ne (cs : List Char) : (escaped cs).head? ≠ some '|' := by
  cases cs with
  | nil => simp [escaped]
  | cons c cs =>
    by_cases hc : c = '|'
    · subst hc
      simp [escaped_bar]
    · simp [escaped_cons hc, hc]

/-- A character is kept unless it is a backslash before a bar. -/
theorem unescaped_cons {cs : List Char} (c : Char) (h : cs.head? ≠ some '|') :
    unescaped (c :: cs) = c :: unescaped cs := by
  rw [unescaped]
  -- The other equation is for a backslash before a bar.
  rintro rest - rfl
  exact h rfl

/-- Reading undoes writing, also where a text has backslashes of its own. -/
theorem unescaped_escaped (cs : List Char) : unescaped (escaped cs) = cs := by
  induction cs with
  | nil => rfl
  | cons c cs ih =>
    by_cases hc : c = '|'
    · subst hc
      rw [escaped_bar, unescaped, ih]
    · rw [escaped_cons hc, unescaped_cons c (head?_escaped_ne cs), ih]

/-- Only the blanks that a row puts around a cell are taken away, not those of the cell. -/
theorem unpadded_blanks (cs : List Char) : unpadded (' ' :: (cs ++ [' '])) = cs := by
  simp [unpadded, Text.dropFinal]

/-! ### Cutting a row -/

/-- A cell ends at the bar behind its blank, whatever stands before it. -/
theorem cutAtBars_escaped (before : Option Char) (cs rest : List Char) :
    cutAtBars before (escaped cs ++ ' ' :: '|' :: rest) =
      (escaped cs ++ [' ']) :: cutAtBars (some '|') rest := by
  induction cs generalizing before with
  | nil => simp [escaped, cutAtBars]
  | cons c cs ih =>
    by_cases hc : c = '|'
    · -- The bar stands behind its backslash, so that neither of the two ends the cell.
      subst hc
      simp [escaped_bar, cutAtBars, ih]
    · simp [escaped_cons hc, cutAtBars, hc, ih]

/-- Cells that are written one behind the other are cut apart again, and nothing is left behind the last. -/
theorem cutAtBars_cells (cells : List (List Char)) :
    cutAtBars (some '|') (cells.flatMap fun cs => ' ' :: (escaped cs ++ [' ', '|'])) =
      cells.map (fun cs => ' ' :: (escaped cs ++ [' '])) ++ [[]] := by
  induction cells with
  | nil => rfl
  | cons cs cells ih =>
    have hblank : ¬ (' ' = '|' ∧ some '|' ≠ some '\\') := by decide
    rw [List.flatMap_cons, List.cons_append, List.append_assoc, cutAtBars, if_neg hblank]
    -- The first cell is cut off, and the induction hypothesis cuts the rest.
    have hcut := cutAtBars_escaped (some ' ') cs
      (cells.flatMap fun cs => ' ' :: (escaped cs ++ [' ', '|']))
    rw [ih] at hcut
    exact congrArg (List.modifyHead (' ' :: ·)) hcut

/-- A cell is written with its bars escaped. -/
theorem toList_cell (text : String) : (cell text).toList = escaped text.toList := by
  rw [cell, Text.replaceChar, String.toList_ofList]
  rfl

/-- The blanks and bars between and around the pieces, counted with the pieces. -/
theorem cons_intercalate_append {pieces : List (List Char)} (h : pieces ≠ []) :
    ' ' :: ([' ', '|', ' '].intercalate pieces ++ [' ', '|']) =
      pieces.flatMap fun piece => ' ' :: (piece ++ [' ', '|']) := by
  induction pieces with
  | nil => exact absurd rfl h
  | cons piece rest ih =>
    cases rest with
    | nil => simp
    | cons next rest =>
      have hrest := ih (List.cons_ne_nil next rest)
      rw [List.flatMap_cons, ← hrest, List.intercalate_cons_cons]
      simp

/-- A row as characters: every cell has a blank on both sides and a bar behind it. -/
theorem toList_row {cells : List String} (h : cells ≠ []) :
    (row (cells.map cell)).toList =
      '|' :: (cells.map String.toList).flatMap fun cs => ' ' :: (escaped cs ++ [' ', '|']) := by
  have hcells : (cells.map cell).map String.toList = (cells.map String.toList).map escaped := by
    rw [List.map_map, List.map_map]
    exact List.map_congr_left fun text _ => toList_cell text
  have hsome : (cells.map String.toList).map escaped ≠ [] := by simpa using h
  have hrow := cons_intercalate_append hsome
  rw [List.flatMap_map] at hrow
  rw [← hrow, row, String.toList_append, String.toList_append, String.toList_intercalate, hcells]
  rfl

/-- A row of cells is read back, whatever its cells are. -/
theorem readRow_row {cells : List String} (h : cells ≠ []) : readRow (row (cells.map cell)) = cells := by
  have hbar : '|' = '|' ∧ (none : Option Char) ≠ some '\\' := by decide
  rw [readRow, toList_row h, cutAtBars, if_pos hbar, cutAtBars_cells, List.drop_one, List.tail_cons,
    List.dropLast_concat, List.map_map, List.map_map]
  have hread : ∀ text ∈ cells, String.ofList (unescaped (unpadded (' ' :: (escaped text.toList ++ [' '])))) =
      text := by
    intro text _
    rw [unpadded_blanks, unescaped_escaped, String.ofList_toList]
  exact (List.map_congr_left hread).trans (List.map_id _)

/-! ### The lines of a table -/

/-- The text of a table. -/
def tableText (headings : List String) (rows : List (List String)) : String :=
  "\n".intercalate (table headings rows)

/-- Escaping adds no line feed and takes none away. -/
theorem lineFeeds_cell (text : String) : Text.lineFeeds (cell text) = Text.lineFeeds text := by
  rw [Text.lineFeeds, toList_cell, Text.lineFeeds]
  induction text.toList with
  | nil => rfl
  | cons c cs ih =>
    by_cases hc : c = '|'
    · subst hc
      simpa [escaped_bar] using ih
    · rw [escaped_cons hc, List.count_cons, List.count_cons, ih]

/-- A row has the line feeds of its cells. -/
theorem lineFeeds_row (cells : List String) : Text.lineFeeds (row cells) = (cells.map Text.lineFeeds).sum := by
  have hopen : Text.lineFeeds "| " = 0 := by decide +kernel
  have hbetween : Text.lineFeeds " | " = 0 := by decide +kernel
  have hclose : Text.lineFeeds " |" = 0 := by decide +kernel
  rw [row, Text.lineFeeds_append, Text.lineFeeds_append, Text.lineFeeds_intercalate, hopen, hbetween, hclose]
  omega

/-- The dashes under a heading are on one line, whatever the heading is. -/
theorem lineFeeds_dashes (heading : String) : Text.lineFeeds (dashes heading) = 0 := by
  rw [dashes, Text.lineFeeds, String.toList_ofList, List.count_replicate, if_neg (by decide)]

/-- The rule under the headings is on one line. -/
theorem lineFeeds_rule (headings : List String) :
    Text.lineFeeds ("|" ++ "|".intercalate (headings.map dashes) ++ "|") = 0 := by
  have hbar : Text.lineFeeds "|" = 0 := by decide +kernel
  have hdashes : ((headings.map dashes).map Text.lineFeeds).sum = 0 := by
    rw [List.sum_eq_zero_iff_forall_eq_nat]
    simp [lineFeeds_dashes]
  rw [Text.lineFeeds_append, Text.lineFeeds_append, Text.lineFeeds_intercalate, hbar, hdashes]
  omega

/-- The rows have the line feeds of all texts in them. -/
theorem sum_lineFeeds_rows (rows : List (List String)) :
    ((rows.map fun cells => row (cells.map cell)).map Text.lineFeeds).sum =
      (rows.flatten.map Text.lineFeeds).sum := by
  induction rows with
  | nil => rfl
  | cons cells rows ih =>
    have hcells : (cells.map cell).map Text.lineFeeds = cells.map Text.lineFeeds := by
      rw [List.map_map]
      exact List.map_congr_left fun text _ => lineFeeds_cell text
    rw [List.map_cons, List.map_cons, List.sum_cons, ih, lineFeeds_row, hcells, List.flatten_cons,
      List.map_append, List.sum_append]

/-- A table has a line for the headings, for the rule and for every row, and one more for every line
    feed in its texts. -/
theorem length_linesOf_tableText (headings : List String) (rows : List (List String)) :
    (Text.linesOf (tableText headings rows)).length =
      2 + rows.length + ((headings ++ rows.flatten).map Text.lineFeeds).sum := by
  have hfeed : Text.lineFeeds "\n" = 1 := by decide +kernel
  -- The elements of the table are joined by line feeds, of which there are as many as rows and one.
  have hfeeds : Text.lineFeeds (tableText headings rows) =
      ((headings ++ rows.flatten).map Text.lineFeeds).sum + (rows.length + 1) := by
    rw [tableText, Text.lineFeeds_intercalate, table, List.map_cons, List.map_cons, List.sum_cons,
      List.sum_cons, lineFeeds_row, lineFeeds_rule, sum_lineFeeds_rows, hfeed, List.map_append,
      List.sum_append]
    simp only [List.length_cons, List.length_map]
    omega
  rw [Text.length_linesOf, ← Text.lineFeeds, hfeeds]
  omega

/-- Texts of single lines make a table whose lines are its elements. -/
theorem linesOf_tableText {headings : List String} {rows : List (List String)}
    (h : ∀ text ∈ headings ++ rows.flatten, '\n' ∉ text.toList) :
    Text.linesOf (tableText headings rows) = table headings rows := by
  -- No line of the table holds a line feed, so splitting the text gives the lines back.
  have hrow : ∀ {cells : List String}, (∀ text ∈ cells, '\n' ∉ text.toList) → '\n' ∉ (row cells).toList := by
    intro cells hcells
    rwa [← Text.lineFeeds_eq_zero_iff, lineFeeds_row, Text.sum_lineFeeds_eq_zero_iff]
  refine Text.linesOf_intercalate (List.cons_ne_nil _ _) fun line hline => ?_
  rcases List.mem_cons.mp hline with rfl | hline
  · exact hrow fun text htext => h text (List.mem_append_left _ htext)
  rcases List.mem_cons.mp hline with rfl | hline
  · exact (Text.lineFeeds_eq_zero_iff _).mp (lineFeeds_rule headings)
  · obtain ⟨cells, hcells, rfl⟩ := List.mem_map.mp hline
    refine hrow fun shown hshown => ?_
    obtain ⟨text, htext, rfl⟩ := List.mem_map.mp hshown
    rw [← Text.lineFeeds_eq_zero_iff, lineFeeds_cell, Text.lineFeeds_eq_zero_iff]
    exact h text (List.mem_append_right _ (List.mem_flatten_of_mem hcells htext))

/-! ### Reading a table -/

/-- The text of a table has a line for each of its rows, behind the headings and the rule, which is
    read as the cells of the row. -/
structure ReadsBack (headings : List String) (rows : List (List String)) : Prop where
  length_lines : (Text.linesOf (tableText headings rows)).length = 2 + rows.length
  readRow_lines : ((Text.linesOf (tableText headings rows)).drop 2).map readRow = rows

/-- What is read behind the headings and the rule. -/
theorem map_readRow_table (headings : List String) (rows : List (List String)) :
    ((table headings rows).drop 2).map readRow = rows.map fun cells => readRow (row (cells.map cell)) := by
  rw [table, List.drop_succ_cons, List.drop_succ_cons, List.drop_zero, List.map_map]
  rfl

/-- With a cell in every row, a table is read back if and only if its texts are single lines. -/
theorem readsBack_iff {headings : List String} {rows : List (List String)} (hsome : ∀ cells ∈ rows, cells ≠ []) :
    ReadsBack headings rows ↔ ∀ text ∈ headings ++ rows.flatten, '\n' ∉ text.toList := by
  constructor
  · intro h
    -- A line feed in any of the texts would be a line too many.
    have hlength := h.length_lines
    rw [length_linesOf_tableText] at hlength
    exact (Text.sum_lineFeeds_eq_zero_iff _).mp (by omega)
  · intro h
    have hlines := linesOf_tableText h
    have hread : ∀ cells ∈ rows, readRow (row (cells.map cell)) = cells := fun cells hcells =>
      readRow_row (hsome cells hcells)
    constructor
    · rw [hlines, table, List.length_cons, List.length_cons, List.length_map]
      omega
    · rw [hlines, map_readRow_table]
      exact (List.map_congr_left hread).trans (List.map_id _)

/-- Under headings of single lines, a table of rows that are made one by one. -/
theorem readsBack_map_iff {α : Type} {headings : List String} {xs : List α} {f : α → List String}
    (hheadings : ∀ text ∈ headings, '\n' ∉ text.toList) (hsome : ∀ x, f x ≠ []) :
    ReadsBack headings (xs.map f) ↔ ∀ x ∈ xs, ∀ text ∈ f x, '\n' ∉ text.toList := by
  have hcells : ∀ cells ∈ xs.map f, cells ≠ [] := List.forall_mem_map.mpr fun x _ => hsome x
  rw [readsBack_iff hcells, List.forall_mem_append, and_iff_right hheadings, List.forall_mem_flatten,
    List.forall_mem_map]

/-- A row without cells is read as an empty cell. -/
theorem readRow_row_nil : readRow (row []) = [""] := by
  decide +kernel

/-- Rows without cells are not read back. -/
theorem not_readsBack_of_nil {rows : List (List String)} (hrows : rows ≠ [])
    (hnone : ∀ cells ∈ rows, cells = []) : ¬ ReadsBack [] rows := by
  intro h
  have hflatten : rows.flatten = [] := List.flatten_eq_nil_iff.mpr hnone
  have hread := h.readRow_lines
  rw [linesOf_tableText (by simp [hflatten]), map_readRow_table] at hread
  cases rows with
  | nil => exact hrows rfl
  | cons cells rows =>
    -- The first row stands on a line of its own, and an empty cell is read there.
    obtain rfl := hnone cells List.mem_cons_self
    have hfirst : readRow (row []) = [] := (List.cons.inj hread).1
    rw [readRow_row_nil] at hfirst
    cases hfirst

/-- **Reading a table.** Let every row have as many cells as there are headings, whatever the texts are.  The text
    of the table has a line for the headings, one for the rule and one for every row, and one more for every
    line feed in the texts.  A row of the table that is taken by itself is read back, bars and backslashes
    included.  The lines of the table are as many as its rows and two, and are read as these rows, if and only
    if no text has a line feed; only rows without cells are not read back either. -/
theorem readsBack_table (headings : List String) (rows : List (List String))
    (hcells : ∀ cells ∈ rows, cells.length = headings.length) :
    (Text.linesOf (tableText headings rows)).length =
      2 + rows.length + ((headings ++ rows.flatten).map Text.lineFeeds).sum ∧
    (headings ≠ [] → ∀ cells ∈ rows, readRow (row (cells.map cell)) = cells) ∧
    (ReadsBack headings rows ↔
      (∀ text ∈ headings ++ rows.flatten, '\n' ∉ text.toList) ∧ (headings = [] → rows = [])) := by
  have hsome : headings ≠ [] → ∀ cells ∈ rows, cells ≠ [] := by
    intro hheadings cells hmem
    rw [← List.length_pos_iff, hcells cells hmem]
    exact List.length_pos_iff.mpr hheadings
  refine ⟨length_linesOf_tableText headings rows, fun hheadings cells hmem =>
    readRow_row (hsome hheadings cells hmem), ?_⟩
  -- Without headings every row is written as the same empty row, so only an empty table reads back.
  by_cases hheadings : headings = []
  · subst hheadings
    have hnone : ∀ cells ∈ rows, cells = [] := fun cells hmem => List.length_eq_zero_iff.mp (hcells cells hmem)
    by_cases hrows : rows = []
    · subst hrows
      simp [readsBack_iff]
    · simp [hrows, not_readsBack_of_nil hrows hnone]
  · rw [readsBack_iff (hsome hheadings)]
    simp [hheadings]

/-- A table with a bar and a backslash in its cells, and a cell of two lines. -/
def rowsOfBounds : List (List String) :=
  [["a | b", "\\|"], ["x\ny", ""]]

/-- The first of the two rows is read back, the second goes on in another line. -/
theorem readsBack_table_rowsOfBounds :
    (∀ cells ∈ rowsOfBounds, cells.length = ["Name", "Bound"].length) ∧
    (Text.linesOf (tableText ["Name", "Bound"] rowsOfBounds)).length = 2 + 2 + 1 ∧
    readRow (row (["a | b", "\\|"].map cell)) = ["a | b", "\\|"] ∧
    ¬ ReadsBack ["Name", "Bound"] rowsOfBounds := by
  have hcells : ∀ cells ∈ rowsOfBounds, cells.length = ["Name", "Bound"].length := by decide
  obtain ⟨hlength, hrows, hiff⟩ := readsBack_table ["Name", "Bound"] rowsOfBounds hcells
  refine ⟨hcells, hlength, hrows (List.cons_ne_nil _ _) _ List.mem_cons_self, fun h => ?_⟩
  exact (hiff.mp h).1 "x\ny" (by decide) (by decide)

end Markdown

/-! ### The tables of a report -/

namespace Report

open Markdown

/-- The rows of the table of findings. -/
def checkRows (p : RiskProfile) : List (List String) :=
  p.checks.map fun c => [c.check, Numeral.render c.count, c.level.title]

/-- The table of findings, if there are any. -/
theorem checkTable_eq {p : RiskProfile} (h : p.checks ≠ []) :
    checkTable p = table ["Check", "Count", "Level"] (checkRows p) ++ [""] := by
  rw [checkTable, if_neg (by simpa using h)]
  rfl

/-- The table of marked lines, if there are any. -/
theorem markedTable_eq {r : Report} (h : r.markedLines ≠ []) :
    r.markedTable = ["## Annotated Lines\n"] ++
      table ["Line", "Level", "Source", "Notes"] (r.markedLines.map lineRow) ++ [""] := by
  rw [markedTable, if_neg (by simpa using h)]

/-- A number is written on one line. -/
theorem newline_notMem_render (n : Int) : '\n' ∉ (Numeral.render n).toList := by
  intro h
  exact absurd (Numeral.isMark_of_mem_render h) (by decide)

/-- The name of a level is on one line. -/
theorem newline_notMem_title (level : RiskLevel) : '\n' ∉ level.title.toList := by
  cases level <;> decide +kernel

/-- Of the table of findings, only the kinds can be of more than one line. -/
theorem readsBack_checkRows_iff (p : RiskProfile) :
    ReadsBack ["Check", "Count", "Level"] (checkRows p) ↔ ∀ c ∈ p.checks, '\n' ∉ c.check.toList := by
  have hheadings : ∀ text ∈ ["Check", "Count", "Level"], '\n' ∉ text.toList := by decide +kernel
  rw [checkRows, readsBack_map_iff hheadings fun c => List.cons_ne_nil _ _]
  refine forall₂_congr fun c _ => ?_
  simp [newline_notMem_render, newline_notMem_title]

/-- Trimming adds nothing. -/
theorem mem_of_mem_trim {text : String} {c : Char} (h : c ∈ (Text.trim text).toList) : c ∈ text.toList := by
  obtain ⟨front, back, hsplit, -⟩ := (Text.trim_eq_iff.mp rfl : Text.IsCore _ (Text.trim text).toList _).stands
  rw [hsplit]
  exact List.mem_append_left _ (List.mem_append_right _ h)

/-- Of the table of marked lines, only what stands in the margins can be of more than one line, as
    long as the lines of the source are lines. -/
theorem readsBack_lineRows_iff {lines : List MarginLine} (h : ∀ line ∈ lines, '\n' ∉ line.text.toList) :
    ReadsBack ["Line", "Level", "Source", "Notes"] (lines.map lineRow) ↔
      ∀ line ∈ lines, '\n' ∉ (marginText line).toList := by
  have hheadings : ∀ text ∈ ["Line", "Level", "Source", "Notes"], '\n' ∉ text.toList := by decide +kernel
  have hlevel : ∀ risk : Option LineRisk,
      '\n' ∉ ((risk.map fun risk => risk.level.title).getD "-").toList := by
    intro risk
    cases risk with
    | none => decide
    | some risk => exact newline_notMem_title risk.level
  rw [readsBack_map_iff (f := lineRow) hheadings fun line => List.cons_ne_nil _ _]
  refine forall₂_congr fun line hline => ?_
  have htrim : '\n' ∉ (Text.trim line.text).toList := fun hmem => h line hline (mem_of_mem_trim hmem)
  simp [lineRow, newline_notMem_render, hlevel, htrim]

/-- The text of a line in the margins of a session is a line of the source. -/
theorem newline_notMem_text {s : Session} (hready : s.Ready) {lines : List MarginLine}
    (hlines : s.marginLines.1 = .ok lines) {line : MarginLine} (hline : line ∈ lines) :
    '\n' ∉ line.text.toList := by
  rw [hready.marginLines, Except.ok.injEq] at hlines
  subst hlines
  by_cases hsource : s.display.source.text = ""
  · rw [hsource] at hline
    cases hline
  · have htext := List.mem_map_of_mem (f := MarginLine.text) hline
    rw [map_text_marginLines _ _ _ _ _ _ hsource] at htext
    exact Text.not_mem_of_mem_linesOf htext

/-- Without contracts there is no report. -/
theorem loaded_of_ofSession_ok {s : Session} {contractName : String} {report : Report}
    (h : (ofSession contractName s).1 = .ok report) : s.contracts.isSome := by
  cases hcontracts : s.contracts with
  | some contracts => rfl
  | none =>
    have hanalysis : s.functionAnalysis = .error .notLoaded := by
      rw [Session.functionAnalysis, Session.contractList, hcontracts]
      rfl
    rw [ofSession, hanalysis] at h
    cases h

end Report

namespace World

open Markdown

/-- **The tables of a report.** After every run on a fresh session, whatever the engine answers, a report has a
    table of the kinds of findings if there are any, and a table of the marked lines if there are any.  The
    first one is read back if and only if no kind has a line feed, and the second one if and only if there is
    none in what stands in the margins of the lines. -/
theorem readsBack_tables_iff (config : Config) (moves : List Move) (contractName : String) {report : Report}
    (hreport : (Report.ofSession contractName ((fresh config).run moves).session).1 = .ok report) :
    (report.profile.checks ≠ [] → Report.checkTable report.profile =
      table ["Check", "Count", "Level"] (Report.checkRows report.profile) ++ [""]) ∧
    (ReadsBack ["Check", "Count", "Level"] (Report.checkRows report.profile) ↔
      ∀ c ∈ report.profile.checks, '\n' ∉ c.check.toList) ∧
    (report.markedLines ≠ [] → report.markedTable = ["## Annotated Lines\n"] ++
      table ["Line", "Level", "Source", "Notes"] (report.markedLines.map Report.lineRow) ++ [""]) ∧
    (ReadsBack ["Line", "Level", "Source", "Notes"] (report.markedLines.map Report.lineRow) ↔
      ∀ line ∈ report.markedLines, '\n' ∉ (Report.marginText line).toList) := by
  have hready := ready_run config moves (Report.loaded_of_ofSession_ok hreport)
  obtain ⟨report', hreport', hlines⟩ := Report.ofSession_lines hready contractName
  obtain rfl : report' = report := Except.ok.inj (hreport'.symm.trans hreport)
  refine ⟨Report.checkTable_eq, Report.readsBack_checkRows_iff _, Report.markedTable_eq,
    Report.readsBack_lineRows_iff fun line hline => ?_⟩
  exact Report.newline_notMem_text hready hlines (List.mem_of_mem_filter hline)

/-- An archive with a finding whose kind is of two lines. -/
def archiveOfBrokenKind : Archive where
  contracts := [{ id := 1, name := "Vault", functions := [{ id := 10, name := "deposit" }] }]
  analyses :=
    [("Vault", .obj [("functions", .arr [.obj [("functionId", .int 10), ("functionName", .str "deposit"),
      ("paths", .arr [.obj [("feasible", .bool true),
        ("arithChecks", .arr [.obj [("opNode", .int 5), ("check", .str "Over\nflow")]])]])]])])]
  sources :=
    [(10, .obj [("source", .str "x = a + b;"), ("lineMap", .arr [.arr [.int 1, .int 0, .int 5]])])]

/-- The function with the finding is selected, and everything that is fetched for it comes. -/
def visitOfBrokenKind : List Move :=
  let engine := archiveOfBrokenKind.oracle
  [.issue .load, .reply 0 engine,
    .issue (.dispatch (.selectFunction 10 none)), .reply 0 engine, .reply 0 engine,
    .deliver ⟨0, .flowGraph, 10⟩ engine]

/-- The report on the visit has one kind of findings, and it is of two lines. -/
theorem checks_visitOfBrokenKind {report : Report}
    (hreport : (Report.ofSession "Vault" ((fresh {}).run visitOfBrokenKind).session).1 = .ok report) :
    report.profile.checks = [{ check := "Over\nflow", count := 1, level := .orange }] := by
  have hcounts : ((Report.ofSession "Vault" ((fresh {}).run visitOfBrokenKind).session).1.map
      Report.checkCounts).toOption = some [("Over\nflow", 1)] := by
    decide +kernel
  rw [hreport] at hcounts
  have hone : report.checkCounts = [("Over\nflow", 1)] := Option.some.inj hcounts
  have hlevel : checkLevel "Over\nflow" = .orange := by decide +kernel
  rw [Report.profile, hone, List.mergeSort_singleton, List.map_singleton, hlevel]

/-- **A table need not be read back.** A session at an engine that answers from an archive may be settled, and
    the table of findings in its report has a row that goes on in another line. -/
theorem not_always_readsBack :
    ¬ ∀ (archive : Archive) (config : Config) (moves : List Move) (contractName : String) (report : Report),
      (∀ m ∈ moves, m.HonestTo archive.oracle) →
      ((fresh config).run moves).calls = [] →
      ((fresh config).run moves).session.fetches = [] →
      (Report.ofSession contractName ((fresh config).run moves).session).1 = .ok report →
      ReadsBack ["Check", "Count", "Level"] (Report.checkRows report.profile) := by
  intro h
  have hloaded : ((fresh {}).run visitOfBrokenKind).session.contracts.isSome := by decide +kernel
  obtain ⟨report, hreport, -⟩ := Report.ofSession_lines (ready_run {} visitOfBrokenKind hloaded) "Vault"
  have hback := h archiveOfBrokenKind {} visitOfBrokenKind "Vault" report
    (by simp [visitOfBrokenKind, Move.HonestTo, Move.Tells]) (by decide +kernel) (by decide +kernel) hreport
  -- It would be read back only if the kind had no line feed.
  rw [Report.readsBack_checkRows_iff, checks_visitOfBrokenKind hreport] at hback
  exact hback _ List.mem_cons_self (by decide)

end World

end RangeAudit
