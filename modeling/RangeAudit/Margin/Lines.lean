import RangeAudit.Domain.Tracker
import RangeAudit.Risk.Lines

namespace RangeAudit

/-!
# The margin of a source

Beside each source line stand its risk, the domain changes of one path and a static badge. The domain
changes take the place of the badge.

* `activePath?` : the path whose domain changes are shown;
* `rangeNotes` : its domain changes by line;
* `staticBadges` : the badges that depend on no path, by ascending line;
* `stepLine?` : the line of a step;
* `marginLines` : everything, line by line.
-/

/-- A domain change beside a line. -/
structure RangeNote where
  line : Int
  name : String
  domain : String
  kind : ChangeKind
  previous : Option String
  step : Nat
  deriving DecidableEq, Inhabited

/-- The text of a domain change. -/
def RangeNote.text (note : RangeNote) : String :=
  match note.previous with
  | none => note.name ++ " = " ++ note.domain
  | some previous => note.name ++ ": " ++ previous ++ " → " ++ note.domain

/-- What a badge is about. -/
inductive BadgeKind where
  | narrowed
  | truncation
  | precision
  | external
  | info
  deriving DecidableEq, Inhabited

/-- The name of a kind of badge. -/
def BadgeKind.name : BadgeKind → String
  | narrowed => "narrowed"
  | truncation => "truncation"
  | precision => "precision"
  | external => "external"
  | info => "info"

/-- A static badge beside a line. -/
structure Badge where
  text : String
  kind : BadgeKind
  deriving DecidableEq, Inhabited

/-- A source line with its margin. -/
structure MarginLine where
  number : Nat
  text : String
  risk : Option LineRisk := none
  ranges : List RangeNote := []
  badge : Option Badge := none
  deriving DecidableEq, Inhabited

/-! ### The active path -/

/-- The selected path; without a selection the first feasible path that returns, else the first
    feasible one. -/
def activePath? (paths : List PathTrace) (selected : Option Int) : Option PathTrace :=
  match selected with
  | some k => if k < 0 then none else paths[k.toNat]?
  | none =>
    (paths.find? fun path => path.feasible && path.exit == .returns) <|>
      paths.find? PathTrace.feasible

/-! ### Domain changes -/

/-- Add the note of a mention by a step of the given kind on a line, if it changes the domain that the
    variable had before. -/
def noteMention (line digits : Int) (tracked : Entries String Tracked) (kind : StepKind) (k : Nat)
    (notes : Entries Int (List RangeNote)) (mention : String × ValueRange) :
    Entries Int (List RangeNote) :=
  let previous := (tracked.find? mention.1).map Tracked.range
  match ValueRange.classify previous mention.2 (some kind) with
  | none => notes
  | some verdict =>
    notes.update line [] (· ++ [{
      line := line
      name := mention.1
      domain := mention.2.short digits
      kind := verdict
      previous := previous.map (ValueRange.short digits)
      step := k }])

/-- Add the notes of one step, if its node is on a line. -/
def noteStep (index : NodeIndex) (digits : Int) (tracked : Entries String Tracked)
    (notes : Entries Int (List RangeNote)) (k : Nat) : Step → Entries Int (List RangeNote)
  | .described _ => notes
  | .analysed statement =>
    match index.lineOf? statement.node with
    | none => notes
    | some line => statement.ranges.foldl (noteMention line digits tracked statement.kind k) notes

/-- The notes of the steps from position `k` on, given the domains and notes before them. Steps that
    are on no line leave no note, but their domains count. -/
def notesFrom (index : NodeIndex) (digits : Int) (tracked : Entries String Tracked)
    (notes : Entries Int (List RangeNote)) (k : Nat) : List Step → Entries Int (List RangeNote)
  | [] => notes
  | step :: rest =>
    notesFrom index digits (Tracked.absorb tracked step k) (noteStep index digits tracked notes k step)
      (k + 1) rest

/-- The domain changes along a path, by line. -/
def rangeNotes (path : Option PathTrace) (index : NodeIndex) (config : Config) :
    Entries Int (List RangeNote) :=
  match path with
  | none => []
  | some path => notesFrom index config.shortDigits [] [] 0 path.steps

/-! ### Static badges -/

/-- The badge of a line with findings: their kinds, marked by the first. -/
def Badge.ofChecks (checks : List ArithCheck) : Badge :=
  let kinds := distinctBy id (checks.map ArithCheck.check)
  { text := "⚠ " ++ ", ".intercalate kinds
    kind :=
      match kinds with
      | first :: _ => if checkLevel first = .red then .truncation else .precision
      | [] => .precision }

/-- Put a badge on a line that has none. -/
def putBadge (badges : Entries Int Badge) (line : Option Int) (badge : Badge) : Entries Int Badge :=
  match line with
  | some line => if badges.has line then badges else badges.put line badge
  | none => badges

/-- The badge of a variable with several writers. -/
def writersBadge (a : StateAccess) : Badge where
  text := "MULTI-WRITER: " ++ ", ".intercalate (a.writers.map FunctionRef.functionName)
  kind := .info

/-- The badge of a variable without bounds. -/
def unrestrictedBadge (g : GlobalRange) : Badge where
  text := g.varName ++ ": UNRESTRICTED"
  kind := .truncation

/-- The badges that depend on no path, by ascending line. Findings come first, then assertions and
    external calls, variables with several writers, and variables without bounds; a line keeps the
    first badge that it gets. -/
def staticBadges (source : String) (paths : List PathTrace) (index : NodeIndex)
    (accesses : List StateAccess) (globals : List GlobalRange) (config : Config) :
    Entries Int Badge :=
  if source.isEmpty then []
  else
    let found := (placedChecks paths index source config).map fun entry =>
      (entry.1, Badge.ofChecks entry.2)
    let asserted := (assertionLines source).foldl
      (fun badges line => putBadge badges (some line.1) ⟨"↓ NARROWING POINT", .narrowed⟩) found
    let called := (externalCallLines source).foldl
      (fun badges line => putBadge badges (some line.1) ⟨"⚡ EXTERNAL CALL", .external⟩) asserted
    let written := (accesses.filter fun a => 2 ≤ a.writers.length).foldl
      (fun badges a => putBadge badges (index.lineOf? (some a.varId)) (writersBadge a)) called
    let unbounded := (globals.filter GlobalRange.unrestricted).foldl
      (fun badges g => putBadge badges (index.lineOf? (some g.varId)) (unrestrictedBadge g)) written
    byLine unbounded

/-! ### The line of a step -/

/-- A source line as it is searched for in the text of a step: trimmed, without a final semicolon. -/
def statementText (line : String) : List Nat :=
  Text.codes (Text.trimChars (Text.dropFinal ';' (Text.trimChars line.toList)))

/-- What leads to the line of an analysed step: the line of its node, or a text in which the
    statements of source lines are looked for. -/
inductive StepClue where
  | onLine (line : Int)
  | inText (text : List Nat)
  deriving DecidableEq, Inhabited

/-- What leads to the line of an analysed step. -/
def stepClue? (path : Option PathTrace) (k : Option Int) (index : NodeIndex) : Option StepClue := do
  let path ← path
  let k ← k
  let statement ← path.statementAt? k
  match index.lineOf? statement.node with
  | some line => some (.onLine line)
  | none =>
    let text := Text.codes (Text.trimChars statement.text.toList)
    if text.isEmpty then none else some (.inText text)

/-- The line of an analysed step: the line of its node, else the first line whose statement has at
    least two characters and occurs in the text of the step. -/
def stepLine? (path : Option PathTrace) (k : Option Int) (index : NodeIndex) (source : String) :
    Option Int :=
  match stepClue? path k index with
  | none => none
  | some (.onLine line) => some line
  | some (.inText text) =>
    ((Text.numberedLines source).find? fun line =>
      let candidate := statementText line.2
      2 ≤ candidate.length && Text.occursIn candidate text).map fun line => (line.1 : Int)

/-! ### All lines -/

/-- The lines of a source with empty margins. -/
def plainLines (source : String) : List MarginLine :=
  if source.isEmpty then []
  else (Text.numberedLines source).map fun line => { number := line.1, text := line.2 }

/-- The lines of a source with their margins. -/
def marginLines (source : String) (paths : Option (List PathTrace)) (index : NodeIndex)
    (selected : Option Int) (accesses : List StateAccess) (globals : List GlobalRange)
    (config : Config) : List MarginLine :=
  let risks := lineRisks paths index source config
  let notes := rangeNotes (activePath? (paths.getD []) selected) index config
  let badges := staticBadges source (paths.getD []) index accesses globals config
  (plainLines source).map fun line =>
    let ranges := (notes.find? line.number).getD []
    { line with
      risk := risks.find? line.number
      ranges := ranges
      badge := if ranges.isEmpty then badges.find? line.number else none }

end RangeAudit
