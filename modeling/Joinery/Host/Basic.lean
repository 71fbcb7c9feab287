import Joinery.Catalog.Database

/-!
# Hosts

A program asks its host for the variables of the environment and for the contents of files. `Host` is
what it can ask, so that it runs on a real machine as well as on files that are given as data.
-/

namespace Joinery

/-- What a path leads to. -/
inductive FileContent
  | text (value : String)
  /-- Bytes that are no text. -/
  | binary
  | directory
  /-- A database with a table of links. -/
  | database (rows : List StoredLink)
  deriving DecidableEq

/-- What a program can ask in `m`. -/
structure Host (m : Type → Type) where
  /-- The value of a variable of the environment. -/
  env : String → m (Option String)
  /-- What a path leads to, if it leads to anything. -/
  content : String → m (Option FileContent)
  /-- The directory that holds the settings of a user. -/
  configDirectory : m (Option String)

namespace Host

variable {m : Type → Type} [Monad m]

/-- The text in a file, if it is there and is a text. -/
def text (h : Host m) (path : String) : m (Option String) := do
  match ← h.content path with
  | some (.text value) => return some value
  | _ => return none

/-- A path leads to something. -/
def isThere (h : Host m) (path : String) : m Bool := do
  return (← h.content path).isSome

/-- The values that some variables have. -/
def values (h : Host m) (names : List String) : m (String → Option String) := do
  let values ← names.mapM fun name => do return (name, ← h.env name)
  return fun name => (values.lookup name).join

end Host

end Joinery
