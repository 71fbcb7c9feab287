import Joinery.Host.Basic
import Joinery.Text.Pieces

/-!
# Hosts that are data

`FileTree` is a working directory with the files in it and an environment; `FileTree.host` answers from
it. A path is followed name by name, and every name but the last has to lead to a directory. Nothing is
known of what lies outside the working directory, except that the directories around it are there.
-/

namespace Joinery

open Text

/-- The names that a path leads through. -/
def pathNames (path : String) : List String :=
  (pieces ['/'] path.toList).map String.ofList

/-- Where a path leads to. -/
inductive Location
  /-- In or below the working directory. -/
  | inside (names : List String)
  /-- A directory around the working directory. -/
  | around
  deriving DecidableEq

/-- Files, and the environment they are used in. -/
structure FileTree where
  /-- What the names from the working directory on lead to. Directories in between are there. -/
  files : List (List String × FileContent) := []
  environment : List (String × String) := []
  configDirectory : Option String := none

namespace FileTree

/-- What is at a location. -/
def at? (t : FileTree) : Location → Option FileContent
  | .around => some .directory
  | .inside names =>
    match t.files.lookup names with
    | some content => some content
    | none =>
      if names.isEmpty || t.files.any (names.isPrefixOf ·.1) then some .directory else none

/-- Follows one name from a location, which has to be a directory. -/
def step (t : FileTree) (here : Location) (name : String) : Option Location :=
  if t.at? here ≠ some .directory then none
  else if name = "" ∨ name = "." then some here
  else
    match here, name with
    | .inside names, ".." => if names.isEmpty then some .around else some (.inside names.dropLast)
    | .inside names, name => some (.inside (names ++ [name]))
    | .around, ".." => some .around
    | .around, _ => none

/-- Follows names from a location. -/
def walk (t : FileTree) (names : List String) (here : Location) : Option Location :=
  names.foldlM t.step here

/-- What a path leads to. The empty path leads nowhere, and of the paths from the root only those are
known that lead nowhere else. -/
def content (t : FileTree) (path : String) : Option FileContent :=
  match path.toList with
  | [] => none
  | '/' :: _ => (t.walk (pathNames path) .around).bind t.at?
  | _ => (t.walk (pathNames path) (.inside [])).bind t.at?

/-- The host that answers from given files. -/
def host (t : FileTree) : Host Id where
  env name := t.environment.lookup name
  content := t.content
  configDirectory := t.configDirectory

end FileTree

end Joinery
