import Joinery.Catalog.JsonRows
import Joinery.Host.Basic

/-!
# Catalogs in files

How links are loaded from a JSON file or from a database that a host holds. Whether a database is there
shows when it is opened, what it holds when links are loaded.
-/

namespace Joinery

open Text

variable {m : Type → Type} [Monad m]

/-- Loads the links of a JSON file. -/
def LinkLoader.ofJsonFile (h : Host m) (delimiter path : String) : LinkLoader m := do
  match ← h.text path with
  | some source => return linksOfJson delimiter source
  | none => return .error (.unreadable path)

/-- Adds a name to the names of a path, the last of which comes first. -/
def addName (names : List (List Char)) (name : List Char) : List (List Char) :=
  if name = [] ∨ name = ['.'] then names
  else
    match names with
    | last :: rest => if name = ['.', '.'] ∧ last ≠ ['.', '.'] then rest else name :: names
    | [] => [name]

/-- A path without the names that lead nowhere or are taken back right away. -/
def shortPath (path : String) : String :=
  let start := if path.toList.head? = some '/' then "/" else ""
  let names := (pieces ['/'] path.toList).foldl addName []
  start ++ String.intercalate "/" (names.reverse.map String.ofList)

/-- The names of databases that are in no file and hold nothing. -/
def isPassing (path : String) : Bool :=
  path = "" || path = ":memory:"

/-- Opens a database. A file that is no database can be opened, but nothing can be loaded from it. -/
def DatabaseCatalog.ofFile (h : Host m) (c : DatabaseCatalog) (path : String) :
    m (Except DatabaseFault (LinkLoader m)) := do
  if isPassing path then return .ok (return .error (.database .noDatabase))
  match ← h.content (shortPath path) with
  | none | some .directory => return .error .notOpened
  | some (.database rows) => return .ok (return c.load rows)
  | some (.text _) | some .binary => return .ok (return .error (.database .noDatabase))

end Joinery
