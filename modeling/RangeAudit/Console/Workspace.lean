import RangeAudit.Entries
import RangeAudit.Text.FileName
import RangeAudit.Text.Line
import RangeAudit.Text.Quoted

namespace RangeAudit.Console

/-!
# Workspaces

The files that a command can see. A path leads from the working directory, or from the root, through
folders to a place; each part of it must be found before the next one is looked at.

* `Spot` : a place in the tree of folders;
* `Workspace.locate` : where a path leads;
* `Workspace.load`, `Workspace.write` : the content of a file.
-/

/-- A place in the tree of folders: up from the working directory, or from the root, and then down
    along names. -/
structure Spot where
  rooted : Bool := false
  ups : Nat := 0
  names : List String := []
  deriving DecidableEq, Inhabited

namespace Spot

/-- The folder that a place is in. The root is in itself. -/
def parent (s : Spot) : Spot :=
  if !s.names.isEmpty then { s with names := s.names.dropLast }
  else if s.rooted then s
  else { s with ups := s.ups + 1 }

/-- A place in a folder. -/
def child (s : Spot) (name : String) : Spot :=
  { s with names := s.names ++ [name] }

/-- Is `s` the place `t` or a folder around it? -/
def contains (s t : Spot) : Bool :=
  s.rooted == t.rooted && s.ups == t.ups && s.names.isPrefixOf t.names

/-- The path of a place. -/
def path (s : Spot) : String :=
  (if s.rooted then "/" else "") ++ "/".intercalate (List.replicate s.ups ".." ++ s.names)

end Spot

/-- What is found at the end of a path. -/
inductive Place where
  | folder
  | file (content : String)
  /-- Nothing, in a folder that exists. -/
  | vacant
  deriving DecidableEq, Inhabited

/-- Why a path leads nowhere. -/
inductive Obstacle where
  /-- A part of the path is missing. -/
  | missing
  /-- A file is in the place of a folder. -/
  | notAFolder
  /-- The path, or a part of it, is longer than it may be. -/
  | nameTooLong
  deriving DecidableEq, Inhabited

/-- Why a file cannot be opened. -/
inductive FileError where
  | notFound (path : String)
  | isFolder (path : String)
  | notAFolder (path : String)
  | nameTooLong (path : String)
  deriving DecidableEq, Inhabited

/-- The wording of a refusal to open a file. -/
def FileError.message : FileError → String
  | notFound path => "[Errno 2] No such file or directory: " ++ Text.quoted path
  | isFolder path => "[Errno 21] Is a directory: " ++ Text.quoted path
  | notAFolder path => "[Errno 20] Not a directory: " ++ Text.quoted path
  | nameTooLong path => "[Errno 36] File name too long: " ++ Text.quoted path

/-- Why an obstacle keeps the file at a path from being opened. -/
def Obstacle.fileError (path : String) : Obstacle → FileError
  | missing => .notFound path
  | notAFolder => .notAFolder path
  | nameTooLong => .nameTooLong path

/-- The files by place, and folders in which there may be no file. -/
structure Workspace where
  files : Entries Spot String := []
  folders : List Spot := []
  deriving Inhabited

namespace Workspace

/-- Does a folder exist? A folder exists if it is known to exist or if a file lies in it, and so do
    the working directory, the folders around it, and the root. -/
def hasFolder (w : Workspace) (s : Spot) : Bool :=
  s.names.isEmpty || w.folders.any s.contains || w.files.any fun file => s.contains file.1.parent

/-- The most bytes that a name may have. -/
def maxNameSize : Nat := 255

/-- The most bytes that a path may have. -/
def maxPathSize : Nat := 4095

/-- Where a path leads whose parts are given, from a folder that exists. Empty parts and single dots
    stand for the folder itself, two dots for the folder around it. -/
def walk (w : Workspace) (s : Spot) : List String → Except Obstacle (Spot × Place)
  | [] => .ok (s, .folder)
  | part :: rest =>
    if part = "" ∨ part = "." then walk w s rest
    else if part = ".." then walk w s.parent rest
    else if maxNameSize < Text.pathSize part then .error .nameTooLong
    else
      let next := s.child part
      if w.hasFolder next then walk w next rest
      else
        match w.files.find? next, rest with
        | some content, [] => .ok (next, .file content)
        | some _, _ :: _ => .error .notAFolder
        | none, [] => .ok (next, .vacant)
        | none, _ :: _ => .error .missing

/-- The parts of a path. -/
def partsOf (path : String) : List String :=
  (Text.divide '/' path.toList).map String.ofList

/-- The parts of a path, with the same text for the same bytes. -/
def namesOf (path : String) : List String :=
  (partsOf path).map Text.canonicalName

/-- Where a path starts: at the root if it begins with a slash. -/
def startOf (path : String) : Spot :=
  { rooted := path.startsWith "/" }

/-- Where a path leads. The empty path leads nowhere. -/
def locate (w : Workspace) (path : String) : Except Obstacle (Spot × Place) :=
  if path.isEmpty then .error .missing
  else if maxPathSize < Text.pathSize path then .error .nameTooLong
  else w.walk (startOf path) (namesOf path)

/-- The content of a file. -/
def read? (w : Workspace) (path : String) : Option String :=
  match w.locate path with
  | .ok (_, .file content) => some content
  | _ => none

/-- Does a path lead to a folder? -/
def showsFolder (w : Workspace) (path : String) : Bool :=
  match w.locate path with
  | .ok (_, .folder) => true
  | _ => false

/-- The path without empty parts and single dots. Two slashes at the start, and no more, are kept. -/
def plain (path : String) : String :=
  let parts := (partsOf path).filter fun part => part != "" && part != "."
  let lead :=
    if path.startsWith "//" && !path.startsWith "///" then "//"
    else if path.startsWith "/" then "/" else ""
  let joined := lead ++ "/".intercalate parts
  if joined.isEmpty then "." else joined

/-- The content of the file at a path. -/
def load (w : Workspace) (path : String) : Except FileError String :=
  let path := plain path
  match w.locate path with
  | .ok (_, .file content) => .ok content
  | .ok (_, .folder) => .error (.isFolder path)
  | .ok (_, .vacant) => .error (.notFound path)
  | .error obstacle => .error (obstacle.fileError path)

/-- Write a file, in place of one that is there. -/
def write (w : Workspace) (path content : String) : Except FileError Workspace :=
  let path := plain path
  match w.locate path with
  | .ok (_, .folder) => .error (.isFolder path)
  | .ok (s, _) => .ok { w with files := w.files.put s content }
  | .error obstacle => .error (obstacle.fileError path)

/-- A workspace with files in the working directory, given by their paths. -/
def ofFiles (files : List (String × String)) : Workspace where
  files := Entries.ofList (files.map fun file =>
    ({ names := (namesOf file.1).filter fun part => part != "" && part != "." }, file.2))

/-- A workspace with files in the working directory, and around it what every system has: some folders
    at the root, and the file that stays empty. -/
def onSystem (files : List (String × String)) : Workspace :=
  let w := ofFiles files
  { w with
    files := w.files.put { rooted := true, names := ["dev", "null"] } ""
    folders := ["tmp", "dev", "etc", "usr", "var", "home", "root", "proc"].map fun name =>
      { rooted := true, names := [name] } }

/-- The files below the working directory that were not there before, by their paths. -/
def newSince (w before : Workspace) : Entries String String :=
  (w.files.filter fun file => Spot.contains {} file.1 && !before.files.has file.1).map
    fun file => (file.1.path, file.2)

/-- The files that were not there before or had another content, by their paths. -/
def changedSince (w before : Workspace) : Entries String String :=
  (w.files.filter fun file => before.files.find? file.1 != some file.2).map
    fun file => (file.1.path, file.2)

end Workspace

end RangeAudit.Console
