import RangeAudit.Console.Help
import RangeAudit.Console.Markup
import RangeAudit.Report.Markdown
import RangeAudit.Session.Opening
import RangeAudit.Text.WordChar

namespace RangeAudit.Console

/-!
# Runs

What a command line does: what it prints, which file it writes, and how it ends. A run sees the
workspace, the environment and the time that it is given, and nothing else.

* `run` : the run of a command line;
* `Command.run` : the run of a command with its settings.
-/

/-- What is printed. -/
inductive Printed where
  /-- A text, in which styles count or not. -/
  | text (content : String) (markup : Bool)
  /-- A table; styles count in its cells. -/
  | table (title : String) (columns : List String) (rows : List (List String))
  deriving DecidableEq, Inhabited

/-- How a run ends. -/
inductive Ending where
  | exit (code : Nat)
  | usage (error : UsageError)
  | unwritable (error : FileError)
  | fault (fault : Fault)
  deriving Inhabited

/-- What a run does. -/
structure Run where
  ending : Ending := .exit 0
  printed : List Printed := []
  plainOutput : String := ""
  workspace : Workspace
  deriving Inhabited

/-- What a command knows: its workspace, the configuration, and the time. -/
structure Context where
  workspace : Workspace
  config : Config := {}
  now : String

/-- The engine of the archive in a file. -/
def Workspace.engine (w : Workspace) (path : String) : Except Fault Engine := do
  let _ ← (Text.pathBytes path).mapError Fault.badPath
  match w.load path with
  | .ok content => (Archive.ofFile content).map Engine.fresh
  | .error e => .error (.unreadableDump path e.message)

namespace Context

/-- A run that prints and ends. -/
def done (c : Context) (printed : List Printed) (code : Nat) : Run :=
  { ending := .exit code, printed := printed, workspace := c.workspace }

/-- A run that ends without printing. -/
def stopped (c : Context) (ending : Ending) : Run :=
  { ending := ending, workspace := c.workspace }

/-- A run that fails with a message, for the faults of values and keys; others end it as they are. -/
def failed (c : Context) (lead : String) (fault : Fault) : Run :=
  if fault.kind = .value ∨ fault.kind = .key then
    c.done [.text (styled "red" (lead ++ escape fault.shown)) true] 1
  else c.stopped (.fault fault)

/-- The run of a command at the workbench that its settings ask for. -/
def withSession (c : Context) (s : Settings) (body : Session → Run) : Run :=
  match (do Workbench.openAt (← c.workspace.engine s.dumpFile) c.config s.function s.path s.step) with
  | .ok b => body b.session
  | .error fault => c.failed "" fault

/-- The run that a view allows; a fault of the view ends it. -/
def withView (c : Context) (view : Except Fault α) (body : α → Run) : Run :=
  match view with
  | .ok x => body x
  | .error fault => c.stopped (.fault fault)

end Context

/-- The name of the selected contract. -/
def contractName (s : Session) : String :=
  let found := do
    let id ← s.selection.contractId
    let c ← (s.contract? id).toOption
    c.map Contract.name
  found.getD "unknown"

/-! ### Contracts -/

/-- The rows of a contract: a row for each function, one for the contract if it has none. -/
def contractRows (c : Contract) : List (List String) :=
  if c.functions.isEmpty then [[c.name, c.kind, "-", Numeral.render c.id, "-"]]
  else c.functions.map fun f => [c.name, c.kind, f.displayName, Numeral.render f.id, f.visibility]

/-- List the contracts of an archive. -/
def runContracts (c : Context) (s : Settings) : Run :=
  match c.workspace.engine s.dumpFile with
  | .error fault =>
    if fault.kind = .value then c.failed "Failed to load dump: " fault else c.stopped (.fault fault)
  | .ok engine =>
    c.withView engine.listContracts fun contracts =>
      c.done [.table "Contracts" ["Contract", "Kind", "Function", "Id", "Visibility"]
        (contracts.flatMap contractRows)] 0

/-! ### Paths -/

/-- The row of a path. -/
def pathRow (position : Nat) (p : PathTrace) : List String :=
  let kinds := distinctBy id (p.checks.map ArithCheck.check)
  [Numeral.render position, p.exit.name, if p.feasible then "yes" else styled "dim" "no",
    Numeral.render p.steps.length, Numeral.render p.constraintCount,
    let text := ", ".intercalate kinds
    if text.isEmpty then "-" else text]

/-- The counts of the kinds of findings, in alphabetical order. -/
def countLines (counts : Entries String Nat) : List Printed :=
  (counts.mergeSort fun a b => Text.inOrder a.1 b.1).map fun entry =>
    .text (s!"  {entry.1}: {entry.2}") true

/-- List the paths of a function. -/
def runPaths (c : Context) (s : Settings) : Run :=
  c.withSession s fun session =>
    c.withView session.paths fun known =>
      c.withView session.riskSummary fun counts =>
        let known := known.getD []
        let selected := s.filter.select (s.includeInfeasible || session.config.includeInfeasible) known
        let title := "Paths of " ++ contractName session ++ "." ++
          escape (Text.cutLast '.' s.function).2
        c.done
          ([.table title ["#", "Exit", "Feasible", "Steps", "Constraints", "Checks"]
              (selected.map fun p => pathRow p.1 p.2),
            .text (s!"\n[bold]{selected.length} of {known.length} paths shown[/]") true]
            ++ countLines counts) 0

/-! ### Annotated source -/

/-- A line with its margin. -/
def sourceLine (showBadges : Bool) (highlighted : Option Int) (line : MarginLine) : String :=
  let glyph := (line.risk.map fun risk => risk.level.glyph).getD ""
  let colour := (line.risk.map fun risk => risk.level.colour).getD "white"
  let marker := if highlighted = some (line.number : Int) then "▶" else " "
  let notes := line.ranges.map (fun note => escape note.text)
    ++ if showBadges then (line.badge.map fun badge => escape badge.text).toList else []
  marker ++ Text.padLeft 4 (Numeral.render line.number) ++ " "
    ++ styled colour (Text.padLeft 2 glyph) ++ " │ " ++ escape line.text
    ++ if notes.isEmpty then "" else "  " ++ styled "dim" ("// " ++ "; ".intercalate notes)

/-- Print the source of a function with its margin. -/
def runAnnotate (c : Context) (s : Settings) : Run :=
  c.withSession s fun session =>
    let config := session.config.merged
      { showBadges := if s.hideBadges then some false else none }
    let (lines, session) := session.marginLines
    c.withView lines fun lines =>
      if lines.isEmpty then
        c.done [.text (styled "yellow" "No source available for this function.") true] 0
      else
        c.withView session.highlightedLine fun highlighted =>
          let risky := (lines.filter fun line => line.risk.isSome).length
          c.done
            (lines.map (fun line => Printed.text (sourceLine config.showBadges highlighted line) true)
              ++ [.text (s!"\n[bold]{risky} risk-annotated line(s)[/]") true]) 0

/-! ### Inspection of a path -/

/-- A position that may be absent. -/
def position (k : Option Int) : String :=
  (k.map Numeral.render).getD "None"

/-- The row of a step. -/
def stepRow (current : Option Int) (diffs : List (List VarDiff)) (k : Nat) (step : Step) : List String :=
  let marker := if current = some (k : Int) then "▶ " else ""
  let changes := "; ".intercalate (((diffs[k]?).getD []).map VarDiff.text)
  [marker ++ Numeral.render k, (step.statement?.map fun st => st.kind.label).getD "", escape step.text,
    escape changes]

/-- The row of a variable. -/
def watchCells (row : WatchRow) : List String :=
  [escape row.name,
    if row.unrestricted then styledEscaped "red" row.domain else escape row.domain,
    Numeral.render row.lastStep]

/-- The session with the last step shown, unless a step was asked for or there is none. -/
def atLastStep (s : Settings) (session : Session) (p : PathTrace) : Session :=
  if s.step.isNone && !p.steps.isEmpty then
    (session.navigate (.highlightStep (p.steps.length - 1))).1
  else session

/-- Walk a path step by step. -/
def runInspect (c : Context) (s : Settings) : Run :=
  c.withSession s fun session =>
    c.withView session.selectedPath fun selected =>
      match selected with
      | none =>
        c.done [.text (styled "red" s!"Path {position s.path} not available") true] 1
      | some p =>
        let session := atLastStep s session p
        let current := session.selection.effectiveStep
        let feasible := if p.feasible then "yes" else "no"
        let heading := styled "bold" s!"Path #{position s.path}"
          ++ s!" exit={p.exit.name} feasible={feasible} constraints={p.constraintCount}"
        c.withView session.stepDiffs fun diffs =>
          c.withView session.watch fun rows =>
            let steps := Printed.table "Steps" ["#", "Kind", "Statement", "Changes"]
              (p.steps.zipIdx.map fun step => stepRow current diffs step.2 step.1)
            let last :=
              if p.hasDomains then
                Printed.table s!"Watch @ step {position current}" ["Variable", "Domain", "Changed at"]
                  (rows.map watchCells)
              else .text (styled "yellow" "No domain data on this path.") true
            c.done [.text heading true, steps, last] 0

/-! ### Reports -/

/-- The text of a report with the outcome of a gate. -/
def reportText (c : Context) (format : ReportFormat) (r : Report) (g : Gate) (found : List Violation) :
    String :=
  match format with
  | .json => (Wire.Value.obj (r.members c.now ++ [("gate_evaluation", g.document found)])).pretty
  | .markdown => r.markdown c.now ++ "\n\n" ++ g.evaluation found

/-- Print a report, or write it to a file, which stays empty if the text cannot be encoded; violations
    of the gate end the run with code 3. -/
def deliver (c : Context) (output : Option String) (text : String) (found : List Violation) : Run :=
  let code := if found.isEmpty then 0 else 3
  let complaints := found.map fun v => Printed.text (styledEscaped "red" v.message) true
  match output.filter fun path => !path.isEmpty with
  | none => c.done (.text text false :: complaints) code
  | some path =>
    let encodable := Text.unencodable? text
    match c.workspace.write path (if encodable.isNone then text else "") with
    | .error e => c.stopped (.unwritable e)
    | .ok w =>
      match encodable with
      | some e => { ending := .fault (.unencodable e), workspace := w }
      | none =>
        { ending := .exit code
          printed := .text (styled "green" ("Report saved to " ++ escape path)) true :: complaints
          workspace := w }

/-- Report on a function. The limits are read before anything else. -/
def runReport (c : Context) (s : Settings) : Run :=
  match Gate.limitsOf s.limits with
  | .error e => c.stopped (.usage (.badLimit e))
  | .ok limits =>
    c.withSession s fun session =>
      c.withView (Report.ofSession (contractName session) session).1 fun r =>
        let g : Gate := { threshold := s.threshold.map RiskLevel.name, limits := limits }
        c.withView (g.violations r.profile.gateInput) fun found =>
          deliver c s.output (reportText c s.format r g found) found

/-! ### Command lines -/

/-- The run of a command with its settings. -/
def Command.run : Command → Context → Settings → Run
  | contracts => runContracts
  | paths => runPaths
  | annotate => runAnnotate
  | inspect => runInspect
  | report => runReport

/-- The text of the version. -/
def versionText : String := "solc-audit, version 0.3.0\n"

/-- The run of a command with the words after its name. -/
def runCommand (c : Context) (env : Environment) (command : Command) (words : List String) : Run :=
  let settings := do
    let given ← scan (Parameter.ofCommand command) true words
    given.settings c.workspace env command
  match settings with
  | .error e => c.stopped (.usage e)
  | .ok s =>
    if s.help then { plainOutput := command.page env.pageWidth ++ "\n", workspace := c.workspace }
    else command.run c s

/-- The configuration of a file; the default without a file. -/
def Context.configured (c : Context) (path : Option String) : Except Fault Context :=
  match path.bind c.workspace.read? with
  | none => .ok c
  | some content => (Config.ofText content).map fun config => { c with config := config }

/-- What the parameters before the command say: the words that are left and the settings, or the run
    that ends here. -/
def general (c : Context) (env : Environment) (words : List String) :
    Except Run (List String × Settings) :=
  let settings := do
    let given ← scan Parameter.general false words
    let s ← given.generalSettings c.workspace env
    return (given.arguments, s)
  match settings with
  | .error e => .error (c.stopped (.usage e))
  | .ok (words, s) =>
    if s.help then .error { plainOutput := generalPage env.pageWidth ++ "\n", workspace := c.workspace }
    else if s.version then .error { plainOutput := versionText, workspace := c.workspace }
    else .ok (words, s)

/-- Can a word be meant for an option? It then begins with neither a letter nor a digit. -/
def mayBeOption (word : String) : Bool :=
  word.toList.head?.any fun c => c == '_' || !Text.isWordChar c

/-- The command of a name. What may be meant for an option is read once more as such before it is
    refused, and may end the run in its own way. -/
def commandNamed (c : Context) (env : Environment) (name : String) (rest : List String) :
    Except Run Command :=
  match Command.ofName? name with
  | some command => .ok command
  | none => do
    if mayBeOption name then let _ ← general c env (name :: rest)
    .error (c.stopped (.usage (.unknownCommand name (Text.closest name (Command.all.map Command.name)))))

/-- The run of a command line: the parameters before the command are checked, the command is found,
    the configuration is read, and the command runs. A command line without words is answered by a
    page. -/
def run (w : Workspace) (env : Environment) (now : String) (words : List String) : Run :=
  let c : Context := { workspace := w, now := now }
  let found : Except Run Run := do
    if words.isEmpty then return c.stopped (.usage (.nothingAsked (generalPage env.pageWidth)))
    let (words, s) ← general c env words
    match words with
    | [] => return c.stopped (.usage .missingCommand)
    | name :: rest =>
      let command ← commandNamed c env name rest
      match c.configured s.configFile with
      | .error fault => return c.failed "Failed to load config: " fault
      | .ok c => return runCommand c env command rest
  match found with
  | .ok run => run
  | .error run => run

end RangeAudit.Console
