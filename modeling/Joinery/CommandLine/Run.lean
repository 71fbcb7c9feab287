import Joinery.CommandLine.Arguments
import Joinery.Request.Read
import Joinery.Settings.Load

/-!
# Runs

`run` is the program: it reads its arguments, then the settings, then the links, and answers the command
with them. The first thing that goes wrong is told on the standard error output.
-/

namespace Joinery.CommandLine

/-- What is left of a run. -/
structure Outcome where
  exit : Nat
  stdout : String
  stderr : String
  deriving DecidableEq

namespace Outcome

/-- The command was answered. -/
def success (output : String) : Outcome :=
  ⟨0, output, ""⟩

/-- The command could not be answered. -/
def failure (message : String) : Outcome :=
  ⟨1, "", message ++ "\n"⟩

/-- The arguments could not be used. -/
def misuse (message : String) : Outcome :=
  ⟨2, "", "error: " ++ message ++ "\n"⟩

end Outcome

/-- A text with the end of a line behind it. -/
def printed (text : String) : String :=
  text ++ "\n"

/-- An error in an answer, with who has to act. -/
def report (e : CompileError) : Outcome :=
  .failure s!"Error ({e.blame.name}): {e.message}"

/-- The answer of a computation that can fail. -/
def answer {α : Type} (output : α → String) : Except CompileError α → Outcome
  | .ok value => .success (output value)
  | .error e => report e

/-! ## Commands -/

/-- A table with the tables that it is linked to. -/
def tableLine (g : JoinGraph) (table : String) : String :=
  printed ("  - " ++ table ++ " -> " ++ String.intercalate ", " (g.neighbors table))

/-- The number of links and the tables that they link. -/
def summary (links : List Link) (g : JoinGraph) : String :=
  printed s!"Links: {links.length}" ++ printed s!"Tables: {g.tableCount}" ++ printed "" ++
    String.join (g.tables.map (tableLine g))

/-- Sums the links up. -/
def runLinks (links : List Link) : Outcome :=
  answer (summary links) ((JoinGraph.build links).mapError .graph)

/-- The edges of a path, each on a line. -/
def pathText (p : JoinPath) : String :=
  if p.isEmpty then printed "No joins needed."
  else String.join (p.edges.map fun e => printed e.text)

/-- Finds the joins that bring tables together. -/
def runPath (links : List Link) (tables : List String) : Outcome :=
  answer pathText (resolveTables links tables)

/-- The statement alone, or all parts of the answer. -/
def compiledText (asJson : Bool) (q : Answer) : String :=
  printed (if asJson then q.toJson.lines else q.sql)

/-- Answers the request that is in a file. -/
def runCompile (links : List Link) (target : Target) (asJson : Bool) (file : String)
    (source : Option String) : Outcome :=
  match source with
  | none => .failure s!"Error reading file '{file}': the file cannot be read as a text"
  | some source =>
    match QueryRequest.ofJson source with
    | .error e => .failure s!"Invalid request '{file}': {e.message}"
    | .ok request => answer (compiledText asJson) (compile target links request)

/-- The target that are set, with those that were given in their place. -/
def givenTarget (target : Target) (dialect : Option Dialect) (schema : Option String) :
    Target where
  dialect := dialect.getD target.dialect
  schema := schema <|> target.schema

/-! ## The program -/

variable {m : Type → Type} [Monad m]

/-- Loads the links from a given file, or else from the catalog that the settings name. -/
def loadLinks (h : Host m) (file : Option String) (s : CatalogSettings) :
    m (Except String (List Link)) := do
  let loader ← match file with
    | some path => pure (.ok (.ofJsonFile h s.delimiter path))
    | none => s.loader h
  match loader with
  | .error e => return .error ("Configuration error: " ++ e.message)
  | .ok loader => return (← loader).mapError fun e => "Catalog error: " ++ e.message

/-- Answers a command. -/
def runCommand (h : Host m) (target : Target) (links : List Link) : Command → m Outcome
  | .links => return runLinks links
  | .path tables => return runPath links tables
  | .compile request dialect schema asJson => do
    let source ← h.text request
    return runCompile links (givenTarget target dialect schema) asJson request source

/-- Does what is asked for. -/
def runInvocation (h : Host m) (i : Invocation) : m Outcome := do
  match ← Settings.load h with
  | .error e => return .failure ("Configuration error: " ++ e.message)
  | .ok settings =>
    match ← loadLinks h i.links settings.catalog with
    | .error message => return .failure message
    | .ok links => runCommand h settings.target links i.command

/-- The name of the program and its version. -/
def versionText : String := "tablelink 0.1.0\n"

/-- How the program is used. -/
def helpText : String :=
  String.intercalate "\n" [
    "tablelink - Join-path resolution and SQL assembly over a link catalog", "",
    "Usage: tablelink [--links <file>] <command>", "",
    "Commands:",
    "  compile --request <file> [--dialect <dialect>] [--schema <schema>] [--json]",
    "  path <table>...",
    "  links",
    "  help [command]", ""]

/-- Runs the program with arguments. -/
def run (h : Host m) (arguments : List String) : m Outcome :=
  match Invocation.ofArguments arguments with
  | .ok invocation => runInvocation h invocation
  | .error (.usage fault) => return .misuse fault.message
  | .error .help => return .success helpText
  | .error .version => return .success versionText

end Joinery.CommandLine
