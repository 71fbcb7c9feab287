import Joinery.Json.Read
import Joinery.Link
import Joinery.Text.Utf8

/-!
# Catalogs

A catalog is where links come from. `LinkLoader` is one attempt to load all of them, `cached` keeps
what the first attempt that succeeds has loaded.
-/

namespace Joinery

/-- What is wrong in a database of links. -/
inductive DatabaseFault
  /-- The database cannot be opened. -/
  | notOpened
  /-- What was opened is no database, or it has no links. -/
  | noDatabase
  /-- The statement cannot be run. -/
  | badStatement
  | parameterCount (given needed : Nat)
  /-- A value is of another type than a text. -/
  | columnType (type : String) (index : Nat) (column : String)
  /-- A value is stored as a text, but its bytes are none. -/
  | textBroken (index : Nat) (place : Text.TextBreak)
  deriving DecidableEq

def DatabaseFault.message : DatabaseFault → String
  | notOpened => "unable to open database file"
  | noDatabase => "file is not a database"
  | badStatement => "statement is not understood"
  | parameterCount given needed =>
    s!"Wrong number of parameters passed to query. Got {given}, needed {needed}"
  | columnType type index column =>
    s!"Invalid column type {type} at index: {index}, name: {column}"
  | textBroken index place => s!"Conversion error from type Text at index: {index}, " ++ place.message

/-- Why links cannot be loaded. -/
inductive CatalogError
  | database (fault : DatabaseFault)
  | json (error : Json.ReadError)
  /-- The file cannot be read as a text. -/
  | unreadable (path : String)
  | queryShape (found : Nat)
  | nullColumn (row column : Nat)
  deriving DecidableEq

def CatalogError.message : CatalogError → String
  | database fault => "SQLite error: " ++ fault.message
  | json error => "JSON error: " ++ error.message
  | unreadable path => s!"IO error reading '{path}': the file cannot be read as a text"
  | queryShape found =>
    "Link query must return 4 columns (left table, right table, left columns, right columns), " ++
      s!"got {found}"
  | nullColumn row column => s!"Malformed link row {row}: column {column} is NULL"

/-- One attempt to load the links of a catalog. -/
abbrev LinkLoader (m : Type → Type) := m (Except CatalogError (List Link))

namespace LinkLoader

/-- Links that are there from the start. -/
def ofLinks {m : Type → Type} [Monad m] (links : List Link) : LinkLoader m :=
  return .ok links

/-- Loads until it succeeds and gives the same links from then on. The state is what was loaded. -/
def cached {m : Type → Type} [Monad m] (loader : LinkLoader m) :
    LinkLoader (StateT (Option (List Link)) m) := do
  match ← get with
  | some links => return .ok links
  | none =>
    match ← loader with
    | .ok links => do
      set (some links)
      return .ok links
    | .error e => return .error e

end LinkLoader

end Joinery
