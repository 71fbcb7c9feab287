import Joinery.Catalog.File
import Joinery.Settings.Basic

/-!
# Loading settings

Settings are in the file that the variable `TABLELINK_CONFIG` names, else in the working directory, else in
the directory of the user. Only the first of these files that is there counts. `CatalogSettings.loader`
opens the catalog that settings name.
-/

namespace Joinery

variable {m : Type → Type} [Monad m]

namespace Settings

/-- The variable that names the file with the settings. -/
def fileVariable : String := "TABLELINK_CONFIG"

/-- The file with the settings in the working directory. -/
def localFile : String := "tablelink.toml"

/-- The file with the settings in the directory of a user. -/
def userFile (directory : String) : String :=
  directory ++ "/tablelink/config.toml"

/-- Reads settings from what a path leads to. -/
def ofContent (path : String) : Option FileContent → Except SettingsError Settings
  | none => .error (.fileNotFound path)
  | some (.text source) => ofText source
  | some _ => .error .unreadable

/-- Reads settings from a file. -/
def ofFile (h : Host m) (path : String) : m (Except SettingsError Settings) := do
  return ofContent path (← h.content path)

/-- The file that settings are read from, if there is one. -/
def file? (h : Host m) : m (Option String) := do
  if let some path ← h.env fileVariable then return some path
  if ← h.isThere localFile then return some localFile
  let some directory ← h.configDirectory | return none
  if ← h.isThere (userFile directory) then return some (userFile directory)
  return none

/-- Reads the settings that are in force. -/
def load (h : Host m) : m (Except SettingsError Settings) := do
  match ← file? h with
  | some path => ofFile h path
  | none => return .ok { }

end Settings

namespace CatalogSettings

/-- The path of the file with the values that a host has for variables. -/
def pathOn (h : Host m) (c : CatalogSettings) : m (Except SettingsError String) := do
  let values ← h.values (Settings.variableNames (c.path.getD ""))
  return c.filePath values

/-- Opens the catalog. -/
def loader (h : Host m) (c : CatalogSettings) : m (Except SettingsError (LinkLoader m)) := do
  match ← c.pathOn h with
  | .error e => return .error e
  | .ok path =>
    match c.source with
    | .json => return .ok (.ofJsonFile h c.delimiter path)
    | .sqlite => return (← c.database.ofFile h path).mapError (.catalog ∘ .database)

end CatalogSettings

end Joinery
