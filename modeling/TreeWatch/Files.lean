/-
This file says how files are reached and what can go wrong. A path is a list of names
separated by slashes and is walked from the working directory, name by name. A
directory of files held in memory answers like one on disk, so everything that reads
or writes a file can also be run without one.
-/

import TreeWatch.SortedMap
import TreeWatch.Text.Utf8

namespace TreeWatch

/-- Why a file cannot be reached. -/
inductive FileFault where
  | missing
  | notDirectory
  | isDirectory
  /-- The path has a character that no path can have. -/
  | nulInPath
  /-- Any other answer of the system, in its own words. -/
  | other (reason : String)
  deriving DecidableEq, Repr

def FileFault.message : FileFault → String
  | missing => "No such file or directory (os error 2)"
  | notDirectory => "Not a directory (os error 20)"
  | isDirectory => "Is a directory (os error 21)"
  | nulInPath => "file name contained an unexpected NUL byte"
  | other reason => reason

/-- Why a text cannot be read from a file. -/
inductive TextFault where
  | file (fault : FileFault)
  | notUtf8
  deriving DecidableEq, Repr

def TextFault.message : TextFault → String
  | file fault => fault.message
  | notUtf8 => "stream did not contain valid UTF-8"

/-- The text of a file's content. -/
def TextFault.decode : Except FileFault Bytes → Except TextFault String
  | .error fault => .error (.file fault)
  | .ok content =>
    match Utf8.decode? content with
    | some text => .ok text
    | none => .error .notUtf8

/-- A file or a directory without content of its own. -/
inductive FileNode where
  | file (content : Bytes)
  | directory
  deriving DecidableEq

/-- A directory held in memory: its files and directories by their full names.
Directories above a file need not be listed. -/
structure Files where
  nodes : SortedMap FileNode := .empty

namespace Files

/-- A full name from the names of the steps to it, last one first. -/
def fullName (steps : List String) : String := "/".intercalate steps.reverse

/-- What is at the end of some steps. -/
def node? (files : Files) (steps : List String) : Option FileNode :=
  if steps.isEmpty then some .directory
  else
    match files.nodes.get? (fullName steps) with
    | some node => some node
    | none =>
      if files.nodes.keys.any ((fullName steps ++ "/").isPrefixOf ·) then some .directory
      else none

/-- Walks the names of a path. The steps so far must lead to a directory whenever
another name follows, be it an empty one after a slash at the end. A last name that
does not exist may be allowed. Above the directory held there are only directories. -/
def walk (files : Files) (mayCreate : Bool) :
    List String → List String → Except FileFault (List String)
  | steps, [] => .ok steps
  | steps, name :: rest =>
    match files.node? steps with
    | none => .error .missing
    | some (.file _) => .error .notDirectory
    | some .directory =>
      if name = "" ∨ name = "." then walk files mayCreate steps rest
      else if name = ".." then
        match steps with
        | [] => .error (if rest.all fun name => ["", ".", ".."].contains name
            then .isDirectory else .missing)
        | _ :: steps => walk files mayCreate steps rest
      else if (files.node? (name :: steps)).isNone ∧ ¬ (mayCreate ∧ rest = []) then
        .error .missing
      else walk files mayCreate (name :: steps) rest

/-- The steps a path leads along. Outside the directory held there is nothing. -/
def resolve (files : Files) (mayCreate : Bool) (path : String) :
    Except FileFault (List String) :=
  if path.toList.contains '\x00' then .error .nulInPath
  else if path = "" then .error .missing
  else if path.toList.all (· == '/') then .ok []
  else if path.startsWith "/" then .error .missing
  else files.walk mayCreate [] (path.splitOn "/")

/-- The content of a file. -/
def read (files : Files) (path : String) : Except FileFault Bytes := do
  let steps ← files.resolve false path
  match files.node? steps with
  | some (.file content) => .ok content
  | some .directory => .error .isDirectory
  | none => .error .missing

/-- The directory after a file has been written. -/
def write (files : Files) (path : String) (content : Bytes) : Except FileFault Files := do
  let steps ← files.resolve true path
  match files.node? steps with
  | some .directory => .error .isDirectory
  | _ => .ok { nodes := files.nodes.insert (fullName steps) (.file content) }

end Files

end TreeWatch
