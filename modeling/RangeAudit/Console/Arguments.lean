import RangeAudit.Console.Parameter

namespace RangeAudit.Console

/-!
# Command lines

A command line is read in two passes. The first tells options from arguments and finds the values of
options; the second checks the values one parameter after the other. The options that were given are
checked first, in the order in which they were given, then the argument, then the other options, for
which environment variables may stand in.

* `scan` : the first pass;
* `Given.settings` : the second pass.
-/

/-- What a command line gives, before it is checked. -/
structure Given where
  options : List (Parameter × Option String) := []
  arguments : List String := []
  deriving DecidableEq, Inhabited

/-- One more option at the front. -/
def Given.withOption (g : Given) (p : Parameter) (value : Option String) : Given :=
  { g with options := (p, value) :: g.options }

/-- One more argument at the front. -/
def Given.withArgument (g : Given) (argument : String) : Given :=
  { g with arguments := argument :: g.arguments }

/-! ### First pass -/

/-- A word of a command line. -/
inductive Word where
  | argument
  /-- An option, in the spelling that was used, with the value that is part of the word. -/
  | option (p : Parameter) (spelling : String) (value : Option String)
  deriving DecidableEq, Inhabited

/-- The parameter of a spelling. -/
def spelled? (ps : List Parameter) (spelling : String) : Option Parameter :=
  ps.find? fun p => p.spellings.contains spelling

/-- The options of more than one letter. -/
def longSpellings (ps : List Parameter) : List String :=
  (ps.flatMap Parameter.spellings).filter fun spelling => spelling.startsWith "--"

/-- A word that begins with two dashes: the value of an option may follow an equals sign. -/
def Word.ofLong (ps : List Parameter) (word : String) : Except UsageError Word :=
  let (name, value) :=
    match Text.cutFirst? '=' word with
    | some (name, value) => (name, some value)
    | none => (word, none)
  match spelled? ps name with
  | none => .error (.unknownOption name (Text.closest name (longSpellings ps)))
  | some p =>
    if p.isFlag && value.isSome then .error (.optionTakesNoValue name) else .ok (.option p name value)

/-- A word that begins with one dash and a letter: the value may follow at once. -/
def Word.ofShort (ps : List Parameter) (letter : String) (rest : List String) : Except UsageError Word :=
  let name := "-" ++ letter
  match spelled? ps name with
  | none => .error (.unknownOption name [])
  | some p => .ok (.option p name (if rest.isEmpty then none else some (String.join rest)))

/-- What a word is. A single dash is an argument. -/
def Word.of (ps : List Parameter) (word : String) : Except UsageError Word :=
  match Text.letters word with
  | "-" :: "-" :: _ => Word.ofLong ps word
  | "-" :: letter :: rest => Word.ofShort ps letter rest
  | _ => .ok .argument

/-- What the words of a command line give. After two dashes alone there are arguments only; if options
    and arguments are not mixed, also after the first argument. -/
def scan (ps : List Parameter) (mixed : Bool) : List String → Except UsageError Given
  | [] => .ok {}
  | word :: rest =>
    if word = "--" then .ok { arguments := rest }
    else
      match Word.of ps word with
      | .error e => .error e
      | .ok .argument =>
        if mixed then (scan ps mixed rest).map fun g => g.withArgument word
        else .ok { arguments := word :: rest }
      | .ok (.option p spelling value) =>
        if p.isFlag || value.isSome then (scan ps mixed rest).map fun g => g.withOption p value
        else
          match rest with
          | [] => .error (.optionNeedsValue spelling)
          | next :: rest => (scan ps mixed rest).map fun g => g.withOption p (some next)

/-! ### Second pass -/

/-- The environment: variables that are set, and the start of the names that count here. -/
structure Environment where
  bindings : Entries String String := []
  scope : String := "SOLC_AUDIT"
  deriving Inhabited

/-- The environment of a command. -/
def Environment.ofCommand (env : Environment) (c : Command) : Environment :=
  { env with scope := env.scope ++ "_" ++ String.ofList (c.name.toList.map Char.toUpper) }

/-- The value that stands in for an option. An empty one does not. -/
def Environment.value? (env : Environment) (p : Parameter) : Option String :=
  match p.variableName?.bind fun name => env.bindings.find? (env.scope ++ "_" ++ name) with
  | some value => if value.isEmpty then none else some value
  | none => none

namespace Given

/-- Was the option given? -/
def has (g : Given) (p : Parameter) : Bool :=
  g.options.any fun option => option.1 == p

/-- The values of a parameter: those given, else those that stand in for them. Of several values the
    last counts, except for limits, which add up. -/
def valuesOf (g : Given) (env : Environment) (p : Parameter) : List String :=
  let given := g.options.filterMap fun option => if option.1 = p then option.2 else none
  match p with
  | .dumpFile => g.arguments.take 1
  | .limit => if g.has p then given else (env.value? p).elim [] Text.words
  | _ => if g.has p then given.getLast?.toList else (env.value? p).toList

/-- Set one parameter. -/
def set (g : Given) (w : Workspace) (env : Environment) (command : Option Command) (s : Settings)
    (p : Parameter) : Except UsageError Settings :=
  if p.isFlag && g.has p then .ok (Parameter.raise s true p)
  else
    match g.valuesOf env p with
    | [] =>
      if !p.isRequired command then .ok s
      else if p = .dumpFile then .error (.missingArgument "DUMP_FILE")
      else .error (.missingOption p.spellings)
    | values => values.foldlM (fun s value => Parameter.assign w s value p) s

/-- The parameters in the order in which they are checked. -/
def order (g : Given) (ps : List Parameter) : List Parameter :=
  ((g.options.map Prod.fst) ++ ps).eraseDups

/-- Set parameters in the order in which they are checked. A question comes first; once it is asked,
    nothing else is checked. -/
def setAll (g : Given) (w : Workspace) (env : Environment) (command : Option Command)
    (ps : List Parameter) : Except UsageError Settings := do
  let (questions, others) := (g.order ps).partition Parameter.isQuestion
  let s ← questions.foldlM
    (fun s p => if s.help || s.version then .ok s else g.set w env command s p) ({} : Settings)
  if s.help || s.version then return s
  others.foldlM (g.set w env command) s

/-- The settings of the parameters before the command. -/
def generalSettings (g : Given) (w : Workspace) (env : Environment) : Except UsageError Settings :=
  g.setAll w env none Parameter.general

/-- The settings of a command. -/
def settings (g : Given) (w : Workspace) (env : Environment) (c : Command) :
    Except UsageError Settings := do
  let s ← g.setAll w (env.ofCommand c) (some c) (Parameter.ofCommand c)
  match g.arguments.drop 1 with
  | extra :: more => if s.help then return s else throw (.extraArguments (extra :: more))
  | [] => return s

end Given

end RangeAudit.Console
