import Joinery.Assembly.Basic
import Joinery.Catalog.Basic
import Joinery.Graph.Plan

/-!
# From requests to statements

`compile` answers a request with a statement: it reads the filter, collects what the tables have to
show, finds the joins that bring the tables together, and puts the statement together. A `Compiler`
does so with links that it loads each time.
-/

namespace Joinery

/-- Why there is no statement for a request. -/
inductive CompileError
  | catalog (error : CatalogError)
  | graph (error : GraphError)
  | assembly (error : AssemblyError)
  | filter (error : FilterError)
  | request (error : RequestError)
  deriving DecidableEq

/-- Who has to act on an error. -/
inductive Blame
  /-- The catalog is wrong. -/
  | configuration
  /-- The tables cannot be joined by the links of the catalog. -/
  | connectivity
  /-- The request is wrong. -/
  | client
  deriving DecidableEq

def Blame.name : Blame → String
  | configuration => "Configuration"
  | connectivity => "Connectivity"
  | client => "Client"

namespace CompileError

def message : CompileError → String
  | catalog error => "Catalog error: " ++ error.message
  | graph error => error.message
  | assembly error => "Assembly error: " ++ error.message
  | filter error => "Filter error: " ++ error.message
  | request error => "Invalid request: " ++ error.message

/-- Who has to act. A link that cannot be used is a fault of the catalog. -/
def blame : CompileError → Blame
  | catalog _ | graph (.badLink ..) => .configuration
  | graph _ => .connectivity
  | assembly _ | filter _ | request _ => .client

end CompileError

/-- What statements are written for. -/
structure Target where
  dialect : Dialect := .postgres
  /-- The schema of requests that name none. -/
  schema : Option String := none
  deriving DecidableEq

/-- The answer to a request. -/
structure Answer where
  sql : String
  columns : List OutputColumn
  /-- The joins that bring the tables of the request together. -/
  path : JoinPath
  dialect : Dialect
  deriving DecidableEq

/-- The statement for a request, and the joins it follows. -/
def compileQuery (target : Target) (links : List Link) (r : QueryRequest) :
    Except CompileError (Assembled × JoinPath) := do
  let d := target.dialect
  let filter ← (FilterExpr.ofText d r.conditionData).mapError .filter
  let selection ← (Selection.ofRequest r filter).mapError .request
  let graph ← (JoinGraph.build links).mapError .graph
  let path ← (graph.resolve selection.requiredTables).mapError .graph
  let steps ← (graph.plan path).mapError .graph
  let schema := r.schema <|> target.schema
  let joins := steps.map (·.condition)
  let assembled ←
    (assemble d schema selection joins (filter.map (·.text))).mapError .assembly
  return (assembled, path)

/-- Answers a request. -/
def compile (target : Target) (links : List Link) (r : QueryRequest) :
    Except CompileError Answer := do
  let (assembled, path) ← compileQuery target links r
  return ⟨assembled.query.toSql target.dialect, assembled.columns, path, target.dialect⟩

/-- The joins that bring tables together. -/
def resolveTables (links : List Link) (tables : List String) : Except CompileError JoinPath :=
  (JoinGraph.build links >>= (·.resolve tables)).mapError .graph

/-! ## Compilers -/

/-- Answers requests with the links of a catalog. -/
structure Compiler (m : Type → Type) where
  loader : LinkLoader m
  target : Target := { }

namespace Compiler

variable {m : Type → Type} [Monad m]

/-- Loads the links and answers by them. -/
def withLinks {α : Type} (c : Compiler m) (answer : List Link → Except CompileError α) :
    m (Except CompileError α) := do
  match ← c.loader with
  | .ok links => return answer links
  | .error e => return .error (.catalog e)

/-- Loads the links and answers a request. -/
def compile (c : Compiler m) (r : QueryRequest) : m (Except CompileError Answer) :=
  c.withLinks (Joinery.compile c.target · r)

/-- Loads the links and finds the joins that bring tables together. -/
def resolve (c : Compiler m) (tables : List String) : m (Except CompileError JoinPath) :=
  c.withLinks (resolveTables · tables)

end Compiler

/-! ## Writing -/

open Json in
/-- An answer with all its parts. -/
def Answer.toJson (q : Answer) : Value :=
  .obj [("sql", .text q.sql),
    ("columns", .arr (q.columns.map fun c =>
      .obj [("table", .text c.table), ("alias", .text c.aliasName)])),
    ("path", .arr (q.path.edges.map fun e =>
      .obj [("left_table", .text e.left), ("right_table", .text e.right)])),
    ("dialect", .text q.dialect.name)]

end Joinery
