import RangeAudit.Console.Arguments

namespace RangeAudit.Console

/-!
# Help pages

A help page says how a command line is built, what it is for, and which options and commands there are. Pages
are filled to the width of the terminal, but not beyond eighty columns.

* `fill` : a text on lines of a width;
* `Command.page`, `generalPage` : the pages.
-/

/-! ### Filling lines -/

/-- The runs of blanks and of other characters that make up a text. -/
def runsOf (text : String) : List (List Char) :=
  text.toList.splitBy fun a b => (a == ' ') == (b == ' ')

/-- Is the run one of blanks? -/
def isGap (run : List Char) : Bool :=
  run.all (· == ' ')

/-- The runs at the front that fit into a width, and those that are left. -/
def takeFitting : (width : Nat) → List (List Char) → List (List Char) × List (List Char)
  | _, [] => ([], [])
  | width, run :: rest =>
    if run.length ≤ width then
      let (taken, left) := takeFitting (width - run.length) rest
      (run :: taken, left)
    else ([], run :: rest)

/-- The runs of the next line, and those that are left. A word that is longer than a line is cut. -/
def nextLine (width : Nat) (runs : List (List Char)) : List (List Char) × List (List Char) :=
  let (taken, left) := takeFitting width runs
  match left with
  | word :: rest =>
    if width < word.length then
      let room := max (width - taken.flatten.length) 1
      (taken ++ [word.take room], word.drop room :: rest)
    else (taken, left)
  | [] => (taken, left)

/-- The runs on lines of a width, at most `fuel` of them. There are no blanks at the end of a line,
    and but for the first one none at its start. -/
def fillRuns (width : Nat) : (fuel : Nat) → List (List Char) → List String
  | 0, _ => []
  | _, [] => []
  | fuel + 1, runs =>
    let (line, left) := nextLine width runs
    let line := if line.getLast?.any isGap then line.dropLast else line
    let left := if left.head?.any isGap then left.tail else left
    let lines := fillRuns width fuel left
    if line.isEmpty then lines else String.ofList line.flatten :: lines

/-- A text on lines of a width. Each line takes at least one character. -/
def fill (width : Nat) (text : String) : List String :=
  fillRuns width (text.length + 1) (runsOf text)

/-- A sentence of at most `limit` characters: the sentence itself, or its first words and three dots. -/
def shortened (limit : Nat) (sentence : String) : String :=
  if sentence.length ≤ limit then sentence
  else
    let words := Text.words sentence
    let beginnings := (List.range words.length).map fun n => " ".intercalate (words.take n)
    ((beginnings.filter fun text => text.length + 3 ≤ limit).getLast?.getD "") ++ "..."

/-! ### What there is to say -/

/-- What a command is for. -/
def Command.summary : Command → String
  | contracts => "List contracts and their functions in an analysis dump."
  | paths => "List the explored paths of one function."
  | annotate => "Print the function source annotated with risks and domain changes."
  | inspect => "Walk one path step by step with domain changes and a variable watch."
  | report => "Export the annotated function as a JSON or Markdown report."

/-- What the program is for. -/
def generalSummary : String := "Solidity symbolic-execution audit workbench."

namespace Parameter

/-- What the value of an option looks like; nothing for a flag. -/
def valueForm? : Parameter → Option String
  | logLevel => some (choiceForm (logLevels.map Text.toLower))
  | config => some "FILE"
  | function | limit => some "TEXT"
  | filter => some (choiceForm (PathFilter.choices.map PathFilter.name))
  | path | step => some "INTEGER"
  | output => some "PATH"
  | format => some (choiceForm ([ReportFormat.json, .markdown].map ReportFormat.name))
  | threshold => some (choiceForm (RiskLevel.gates.map RiskLevel.name))
  | _ => none
where
  /-- Choices between brackets. -/
  choiceForm (choices : List String) : String :=
    "[" ++ "|".intercalate choices ++ "]"

/-- What an option is for. -/
def summary (command : Option Command) : Parameter → String
  | help => "Show this message and exit."
  | version => "Show the version and exit."
  | logJson => "Emit log lines as JSON on stderr"
  | config => "Config JSON file"
  | function => "Contract.function, function name or id"
  | includeInfeasible => "Also list infeasible paths"
  | path =>
    match command with
    | some .inspect => "Path to inspect"
    | some .report => "Include the domain changes of this path"
    | _ => "Path whose domain changes are projected"
  | step =>
    match command with
    | some .inspect => "Step for the watch panel (default: last)"
    | _ => "Step to highlight on the selected path"
  | hideBadges => "Hide static badges"
  | output => "Output file path"
  | threshold => "Exit with code 3 if any line is at or above this risk level."
  | limit => "Fail gate in the form <level>=<count> (e.g. red=1). Can be repeated."
  | _ => ""

/-- The row of an option: its spellings, short ones first, with the form of its value, and what it is for. -/
def row (command : Option Command) (p : Parameter) : String × String :=
  (", ".intercalate p.spellings.reverse ++ (p.valueForm?.map fun form => " " ++ form).getD "",
    p.summary command ++ if p.isRequired command then "  [required]" else "")

end Parameter

/-! ### Pages -/

/-- The widest first column. -/
def maxColumn : Nat := 30

/-- Rows of two columns, in a page of a width. A first column that is too wide has a line of its own. -/
def columnLines (width : Nat) (rows : List (String × String)) : List String :=
  let widest := rows.foldl (fun widest row => max widest row.1.length) 0
  let column := min widest maxColumn
  let gap (n : Nat) : String := String.ofList (List.replicate n ' ')
  rows.flatMap fun row =>
    let label := "  " ++ row.1
    match fill (max (width - (column + 4)) 10) row.2 with
    | [] => [label]
    | first :: more =>
      (if row.1.length ≤ column then [label ++ gap (column + 2 - row.1.length) ++ first]
        else [label, gap (column + 4) ++ first])
        ++ more.map fun line => gap (column + 4) ++ line

/-- The width of a page on a terminal with so many columns. -/
def pageWidth (columns : Nat) : Nat :=
  max (min columns 80 - 2) 50

/-- The width of a page. The environment may tell how many columns the terminal has. -/
def Environment.pageWidth (env : Environment) : Nat :=
  match (env.bindings.find? "COLUMNS").bind Numeral.strict? with
  | some n => Console.pageWidth (if 0 < n then n.toNat else 80)
  | none => Console.pageWidth 80

/-- A page: the form of the command line, what it is for, and titled columns. -/
def page (width : Nat) (form summary : String) (sections : List (String × List (String × String))) : String :=
  "\n".intercalate (
    ["Usage: solc-audit " ++ form, ""] ++ ((fill (width - 2) summary).map fun line => "  " ++ line) ++
      sections.flatMap fun part => ["", part.1 ++ ":"] ++ columnLines width part.2)

/-- The page of a command. -/
def Command.page (command : Command) (width : Nat) : String :=
  let options := (Parameter.ofCommand command).filter (· ≠ .dumpFile)
  Console.page width (command.name ++ " [OPTIONS] DUMP_FILE") command.summary
    [("Options", options.map (Parameter.row (some command)))]

/-- The commands in alphabetical order, each with as much of its summary as fits on a line. -/
def commandRows (width : Nat) : List (String × String) :=
  let longest := Command.all.foldl (fun longest c => max longest c.name.length) 0
  ((Command.all.map fun c => (c.name, shortened (width - 6 - longest) c.summary)).mergeSort
    fun a b => Text.inOrder a.1 b.1)

/-- The page of the program. -/
def generalPage (width : Nat) : String :=
  page width "[OPTIONS] COMMAND [ARGS]..." generalSummary
    [("Options", Parameter.general.map (Parameter.row none)), ("Commands", commandRows width)]

end RangeAudit.Console
