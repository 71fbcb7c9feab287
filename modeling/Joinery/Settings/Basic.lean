import Joinery.Catalog.Database
import Joinery.Compile
import Joinery.Settings.Environment
import Joinery.Settings.Toml.Read

/-!
# Settings

Where links come from and what statements are written for, as a TOML text sets it. `Settings.ofText`
reads one. What it does not set has a default, and what it sets beyond that is passed over.
-/

namespace Joinery

open Text

/-- What kind of file holds the links. -/
inductive CatalogKind
  | sqlite
  | json
  deriving DecidableEq

namespace CatalogKind

def name : CatalogKind → String
  | sqlite => "sqlite"
  | json => "json"

/-- The kind of file with a name. -/
def ofName? (name : String) : Option CatalogKind :=
  [sqlite, json].find? (·.name = name)

end CatalogKind

/-- Where links come from. -/
structure CatalogSettings where
  source : CatalogKind := .sqlite
  /-- The path of the file; variables may stand in it. -/
  path : Option String := none
  /-- The statement that selects the links of a database. -/
  query : Option String := none
  /-- The scope that is given to the statement. -/
  scope : Option String := none
  delimiter : String := defaultDelimiter
  deriving DecidableEq

/-- What statements are written for. -/
structure TargetSettings where
  dialect : Dialect := .postgres
  /-- The schema of requests that name none. -/
  schema : Option String := none
  deriving DecidableEq

structure Settings where
  catalog : CatalogSettings := { }
  compile : TargetSettings := { }
  deriving DecidableEq

/-- Why settings cannot be used. -/
inductive SettingsError
  | fileNotFound (path : String)
  /-- The file is no text. -/
  | unreadable
  /-- The text is no TOML, or gives a setting something that it cannot be. -/
  | unparsable
  | missingVariable (name : String)
  | missingCatalogPath
  /-- The catalog cannot be opened. -/
  | catalog (error : CatalogError)
  deriving DecidableEq

def SettingsError.message : SettingsError → String
  | fileNotFound path => "Config file not found: " ++ path
  | unreadable => "Failed to read config file: the file cannot be read as a text"
  | unparsable => "Failed to parse config file: the text is not understood"
  | missingVariable name => "Missing environment variable: " ++ name
  | missingCatalogPath => "No catalog path configured (set [catalog] path)"
  | catalog error => "Failed to open link catalog: " ++ error.message

/-! ## Reading -/

namespace Settings

namespace Toml

/-- What is written for each of the named fields: under their names in a table, in their order in an
array. A time is a table with a name that no field has. -/
def fields? (names : List String) : Toml → Option (List (Option Toml))
  | table entries _ => some (names.map fun name => entries.lookup name)
  | array items | series items => some (names.zipIdx.map fun (_, index) => items[index]?)
  | time => some (names.map fun _ => none)
  | text _ | plain => none

/-- A text. -/
def text? : Toml → Option String
  | text value => some value
  | _ => none

/-- A name, alone or as the only entry of a table, where it stands for nothing. -/
def name? : Toml → Option String
  | text name => some name
  | table [(name, table [] _)] _ | table [(name, array [])] _ => some name
  | _ => none

end Toml

/-- Reads a field with a default. -/
def fieldOr {α : Type} (default : α) (read : Toml → Option α) : Option Toml → Option α
  | none => some default
  | some value => read value

/-- A field that may be missing. -/
def optionalText? : Option Toml → Option (Option String) :=
  fieldOr none fun value => value.text?.map some

/-- Where links come from. -/
def catalog? (value : Toml) : Option CatalogSettings := do
  match ← value.fields? ["source", "path", "query", "scope", "delimiter"] with
  | [source, path, query, scope, delimiter] =>
    return {
      source := ← fieldOr .sqlite (·.name? >>= CatalogKind.ofName?) source
      path := ← optionalText? path
      query := ← optionalText? query
      scope := ← optionalText? scope
      delimiter := ← fieldOr defaultDelimiter Toml.text? delimiter }
  | _ => none

/-- What statements are written for. -/
def compile? (value : Toml) : Option TargetSettings := do
  match ← value.fields? ["dialect", "schema"] with
  | [dialect, schema] =>
    return {
      dialect := ← fieldOr .postgres (·.name? >>= Dialect.ofSetting?) dialect
      schema := ← optionalText? schema }
  | _ => none

/-- The settings in a tree. -/
def ofToml? (value : Toml) : Option Settings := do
  match ← value.fields? ["catalog", "compile"] with
  | [catalog, compile] =>
    return {
      catalog := ← fieldOr { } catalog? catalog
      compile := ← fieldOr { } compile? compile }
  | _ => none

/-- Reads settings from a TOML text. -/
def ofText (text : String) : Except SettingsError Settings :=
  match Toml.ofText? text >>= ofToml? with
  | some settings => .ok settings
  | none => .error .unparsable

end Settings

/-! ## Use -/

/-- What statements are written for by these settings. A schema of blanks is none. -/
def Settings.target (s : Settings) : Target where
  dialect := s.compile.dialect
  schema := (s.compile.schema.map trim).filter (· ≠ "")

namespace CatalogSettings

/-- The path of the file before variables are replaced. A path of blanks is none. -/
def rawPath (c : CatalogSettings) : Except SettingsError String :=
  match c.path with
  | some path => if isBlankText path then .error .missingCatalogPath else .ok path
  | none => .error .missingCatalogPath

/-- The path of the file with the values of variables in it. -/
def filePath (value : String → Option String) (c : CatalogSettings) :
    Except SettingsError String := do
  (Settings.expandVariables value (← c.rawPath)).mapError .missingVariable

/-- How links are taken from a database. -/
def database (c : CatalogSettings) : DatabaseCatalog where
  query := c.query.getD defaultQuery
  scope := c.scope
  delimiter := c.delimiter

end CatalogSettings

end Joinery
