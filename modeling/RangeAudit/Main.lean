import RangeAudit.Console.Plain
import Std.Time.DateTime
import Std.Time.Format

/-!
# The program

The command line with the real files, environment and clock. Everything that a run can read is read
before it, everything that it wrote and printed is written and printed after it. Strings of the system become
texts on the way in and strings again on the way out.
-/

namespace RangeAudit.Program

open Console

/-- The variables that can stand in for options. -/
def variableNames : List String :=
  let namesIn (env : Environment) (ps : List Parameter) : List String :=
    ps.filterMap fun p => p.variableName?.map fun name => env.scope ++ "_" ++ name
  let env : Environment := {}
  "COLUMNS" :: namesIn env Parameter.general ++
    Command.all.flatMap fun c =>
      namesIn (env.ofCommand c) (Parameter.ofCommand c)

/-- The variables that are set. -/
def readVariables : IO (Entries String String) := do
  let mut bindings := []
  for name in variableNames do
    if let some value ← IO.getEnv name then bindings := bindings ++ [(name, Text.ofPlain value)]
  return bindings

/-- The texts that may name a file: the words, and what stands behind an equals sign in them. -/
def candidatePaths (words : List String) : List String :=
  words.flatMap fun word => word :: ((Text.cutFirst? '=' word).map Prod.snd).toList

/-- The content of a file, if it can be read. -/
def readFile? (path : String) : IO (Option String) := do
  try return some (Text.ofPlain (← IO.FS.readFile (Text.toPlain path))) catch _ => return none

/-- Is there anything at a path? -/
def present (path : String) : IO Bool := do
  try
    let _ ← IO.FS.realPath (Text.toPlain path)
    return true
  catch _ => return false

/-- The beginnings of a path, part by part, with the places that they lead to. -/
def beginnings (path : String) : List (Spot × String) :=
  let steps (acc : List (Spot × String)) (part : String) : List (Spot × String) :=
    let (s, text) := acc.headD (Workspace.startOf path, if path.startsWith "/" then "/" else "")
    let s := if part = "" ∨ part = "." then s else if part = ".." then s.parent else s.child part
    (s, text ++ part ++ "/") :: acc
  (Workspace.partsOf path).foldl steps []

/-- The files that are named, and the folders on the way to them. -/
def readWorkspace (words : List String) : IO Workspace := do
  let mut w : Workspace := {}
  for path in candidatePaths words do
    for (spot, text) in beginnings path do
      -- with a slash at its end, a path leads to folders only
      if ← present text then w := { w with folders := spot :: w.folders }
      else if let some content ← readFile? (String.ofList (text.toList.dropLast)) then
        w := { w with files := w.files.put spot content }
  return w

/-- The present time. -/
def now : IO String := do
  let stamp ← Std.Time.Timestamp.now
  let t := Std.Time.PlainDateTime.ofWallTime (.ofNanoseconds stamp.toNanosecondsSinceUnixEpoch)
  return t.format "uuuu-MM-dd" ++ "T" ++ t.format "HH:mm:ss.SSSSSS" ++ "+00:00"

/-- Tell how a run ended, and give its code. -/
def conclude : Ending → IO UInt32
  | .exit code => return code.toUInt32
  | .usage e => do
    IO.eprintln (Text.toPlain s!"Error: {e.message}")
    return 2
  | .unwritable e => do
    IO.eprintln (Text.toPlain e.message)
    return 1
  | .fault fault => do
    IO.eprintln (Text.toPlain fault.message)
    return 1

end RangeAudit.Program

open RangeAudit Console Program in
/-- Run the command line. -/
def main (words : List String) : IO UInt32 := do
  let words := words.map Text.ofPlain
  let bindings ← readVariables
  let before ← readWorkspace (words ++ bindings.map Prod.snd)
  let run := run before { bindings := bindings } (← now) words
  IO.print run.plainOutput
  for item in run.printed do
    for line in item.lines do
      IO.println (Text.toPlain line)
  for file in run.workspace.changedSince before do
    IO.FS.writeFile (Text.toPlain file.1) (Text.toPlain file.2)
  conclude run.ending
