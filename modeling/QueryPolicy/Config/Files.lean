import QueryPolicy.Text.Split

/-!
# Files

The regular files that a process can see, and its working directory. A relative path is looked up
from the working directory upwards.
-/

namespace QueryPolicy.Config

/-- The names of the directories from the root down to a place, and its own name. -/
abbrev Location := List String

/-- The regular files with their contents, and the working directory. -/
structure Files where
  workingDirectory : Location
  contents : List (Location × String) := []

namespace Files

/-- The parts of a path between its slashes. -/
def pathParts (path : String) : List String :=
  ((Text.split '/' path.toList).filter (!·.isEmpty)).map String.ofList

/-- The place that a relative path names from a directory, when all directories on the way exist. -/
def locate (start : Location) (parts : List String) : Location :=
  parts.foldl
    (fun dir part =>
      if part = "." then dir
      else if part = ".." then dir.dropLast
      else dir ++ [part])
    start

/-- Writes a file, named relative to the working directory. -/
def write (fs : Files) (path content : String) : Files :=
  let place := locate fs.workingDirectory (pathParts path)
  { fs with contents := (place, content) :: fs.contents.filter (·.1 ≠ place) }

/-- Whether a place is a directory: an ancestor of a file, or of the working directory or that
itself. -/
def isDirectory (fs : Files) (place : Location) : Bool :=
  place.isPrefixOf fs.workingDirectory ||
    fs.contents.any fun (file, _) => place.isPrefixOf file.dropLast

/-- The content of the regular file that a path of parts names from a directory. -/
def contentFrom? (fs : Files) (dir : Location) : (parts : List String) → Option String
  | [] => none
  | [name] => if name = "." || name = ".." then none else fs.contents.lookup (dir ++ [name])
  | part :: parts =>
    if part = "." then contentFrom? fs dir parts
    else if part = ".." then contentFrom? fs dir.dropLast parts
    else if fs.isDirectory (dir ++ [part]) then contentFrom? fs (dir ++ [part]) parts
    else none

/-- A directory and its ancestors, the nearest first. -/
def upwards (dir : Location) : List Location :=
  (List.range (dir.length + 1)).map fun n => dir.take (dir.length - n)

/-- The content of the first regular file that a path names, from the working directory upwards. An
absolute path is looked up from the root alone; a path that ends in a slash names no file. -/
def find? (fs : Files) (path : String) : Option String :=
  let parts := pathParts path
  if path.toList.getLast? = some '/' then none
  else if path.toList.head? = some '/' then fs.contentFrom? [] parts
  else (upwards fs.workingDirectory).findSome? fun dir => fs.contentFrom? dir parts

end Files

end QueryPolicy.Config
