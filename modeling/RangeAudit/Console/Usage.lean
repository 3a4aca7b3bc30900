import RangeAudit.Report.Gate
import RangeAudit.Text.FileName

namespace RangeAudit.Console

/-!
# Errors of usage

Why a command line is refused, and the wording of each refusal.
-/

/-- Why a value is refused. -/
inductive ValueError where
  | noFile (path : String)
  | isFolder (path : String)
  | notAChoice (value : String) (choices : List String)
  | notAnInteger (value : String)
  | notABoolean (value : String)
  deriving DecidableEq, Inhabited

/-- The wording of a refusal. -/
def ValueError.message : ValueError → String
  | noFile path => s!"File {Text.quoted (Text.shownPath path)} does not exist."
  | isFolder path => s!"File {Text.quoted (Text.shownPath path)} is a directory."
  | notAChoice value choices =>
    s!"{Text.quoted value} is not one of " ++ ", ".intercalate (choices.map Text.quoted) ++ "."
  | notAnInteger value => s!"{Text.quoted value} is not a valid integer."
  | notABoolean value =>
    s!"{Text.quoted value} is not a valid boolean. Recognized values: " ++
      ", 0, 1, f, false, n, no, off, on, t, true, y, yes"

/-- Why a command line is refused. -/
inductive UsageError where
  /-- No words at all; the page that helps comes in the place of a wording. -/
  | nothingAsked (page : String)
  | missingCommand
  /-- The commands that may have been meant come with the name. -/
  | unknownCommand (name : String) (close : List String)
  /-- The options that may have been meant come with the name. -/
  | unknownOption (name : String) (close : List String)
  | missingArgument (name : String)
  | missingOption (names : List String)
  | extraArguments (arguments : List String)
  | optionNeedsValue (name : String)
  | optionTakesNoValue (name : String)
  | badValue (names : List String) (reason : ValueError)
  | badPath (reason : Text.PathError)
  | badLimit (reason : LimitError)
  deriving DecidableEq, Inhabited

/-- The spellings of a parameter. -/
def spellings (names : List String) : String :=
  " / ".intercalate (names.map Text.quoted)

/-- A question for what may have been meant. -/
def suggestion : List String → String
  | [] => ""
  | [name] => s!" Did you mean {Text.quoted name}?"
  | names => " (Did you mean one of: " ++ ", ".intercalate (names.map Text.quoted) ++ "?)"

/-- The wording of a refusal. -/
def UsageError.message : UsageError → String
  | nothingAsked page => page
  | missingCommand => "Missing command."
  | unknownCommand name close => s!"No such command {Text.quoted name}." ++ suggestion close
  | unknownOption name close => s!"No such option {Text.quoted name}." ++ suggestion close
  | missingArgument name => s!"Missing argument {Text.quoted name}."
  | missingOption names => s!"Missing option {spellings names}."
  | extraArguments [one] => s!"Got unexpected extra argument ({one})"
  | extraArguments arguments =>
    "Got unexpected extra arguments (" ++ " ".intercalate arguments ++ ")"
  | optionNeedsValue name => s!"Option {Text.quoted name} requires an argument."
  | optionTakesNoValue name => s!"Option {Text.quoted name} does not take a value."
  | badValue names reason => s!"Invalid value for {spellings names}: {reason.message}"
  | badPath reason => reason.message
  | badLimit reason => s!"Invalid value: {reason.message}"

end RangeAudit.Console
