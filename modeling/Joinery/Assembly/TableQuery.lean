import Joinery.Link
import Joinery.Request.Selection
import Joinery.Sql.Query

/-!
# Inner statements

For every table there is one inner statement, which shows what a request reads from it and the columns
it is joined by. `requestedItems` lists all of that, `TableQuery.addAll` keeps the first of the items
that show the same under the same name. If one of them is an aggregate, the others are grouped by.
-/

namespace Joinery

open Sql

/-- Why a statement cannot be put together. -/
inductive AssemblyError
  | emptyProjection
  | noOutputColumns
  | tableNotInPath (table : String)
  | columnCounts (left right : String) (leftCount rightCount : Nat)
  | emptyCondition (left right : String)
  | disconnectedEdge (left right : String)
  | aliasConflict (table aliasName : String)
  deriving DecidableEq

def AssemblyError.message : AssemblyError → String
  | emptyProjection => "Nothing to assemble: the request names no tables"
  | noOutputColumns => "The request selects no columns: add a dimension or a measure"
  | tableNotInPath table => s!"Table '{table}' is not part of the join path"
  | columnCounts left right leftCount rightCount =>
    s!"Join '{left}' -> '{right}' has {leftCount} left columns but {rightCount} right columns"
  | emptyCondition left right => s!"Join '{left}' -> '{right}' has no columns"
  | disconnectedEdge left right =>
    s!"Join '{left}' -> '{right}' does not touch any table joined so far"
  | aliasConflict table aliasName =>
    s!"Alias '{aliasName}' in table '{table}' is used for two different expressions"

/-- An expression that an inner statement shows under a name. -/
structure InnerItem where
  expr : Expr
  aliasName : String
  deriving DecidableEq

/-- A column of a table under a name. -/
def InnerItem.ofColumn (table column aliasName : String) : InnerItem :=
  ⟨.ofTable table column, aliasName⟩

/-- What the inner statement of a table has to show: dimensions, measures, the columns it is joined by
in all joins, and the columns that the filter reads. -/
def requestedItems (table : String) (shown : TableSelection) (joins : List Link) :
    List InnerItem :=
  shown.dimensions.map (fun c => .ofColumn table c.column c.aliasName) ++
    shown.measures.map (fun c => ⟨.aggregate c.op (.ofTable table c.column), c.aliasName⟩) ++
    (joins.flatMap (·.columnsFor table)).map (fun c => .ofColumn table c c) ++
    shown.filterColumns.map (fun c => .ofColumn table c c)

/-- The inner statement of a table. -/
structure TableQuery where
  table : String
  items : List InnerItem := []
  deriving DecidableEq

namespace TableQuery

/-- Two expressions read the same value. -/
def sameExpr (d : Dialect) : Expr → Expr → Bool
  | .column ta ca, .column tb cb => ta == tb && d.sameColumn ca cb
  | a, b => a == b

/-- Adds an item, unless the same is shown under the same name already. -/
def add (d : Dialect) (s : TableQuery) (item : InnerItem) : Except AssemblyError TableQuery :=
  match s.items.find? fun shown => d.sameColumn shown.aliasName item.aliasName with
  | some shown =>
    if sameExpr d shown.expr item.expr then .ok s
    else .error (.aliasConflict s.table item.aliasName)
  | none => .ok { s with items := s.items ++ [item] }

/-- Adds items in turn. -/
def addAll (d : Dialect) (s : TableQuery) (items : List InnerItem) :
    Except AssemblyError TableQuery :=
  items.foldlM (add d) s

/-- The inner statement of a table. -/
def ofTable (d : Dialect) (selection : Selection) (joins : List Link) (table : String) :
    Except AssemblyError TableQuery :=
  let shown := (selection.find? table).getD { table }
  addAll d { table } (requestedItems table shown joins)

/-- One of the items is an aggregate. -/
def aggregates (s : TableQuery) : Bool :=
  s.items.any (·.expr.isAggregate)

/-- What the rows are grouped by. -/
def groupBy (s : TableQuery) : List Expr :=
  if s.aggregates then (s.items.filter (!·.expr.isAggregate)).map (·.expr) else []

/-- The statement itself. -/
def query (schema : Option String) (s : TableQuery) : Query :=
  .mk (s.items.map fun item => ⟨item.expr, some item.aliasName⟩)
    (some (.table ⟨schema, s.table⟩)) none s.groupBy

/-- The statement as a source under the name of its table. -/
def source (schema : Option String) (s : TableQuery) : Source :=
  .derived (s.query schema) s.table

end TableQuery

/-- An inner statement in the making. What its rows may be grouped by, and whether they are, is kept up with
every item. -/
structure TableDraft where
  table : String
  items : List InnerItem := []
  plain : List Expr := []
  aggregates : Bool := false

namespace TableDraft

/-- Adds an item, unless the same is shown under the same name already. -/
def add (d : Dialect) (s : TableDraft) (item : InnerItem) : Except AssemblyError TableDraft :=
  match s.items.find? fun shown => d.sameColumn shown.aliasName item.aliasName with
  | some shown =>
    if TableQuery.sameExpr d shown.expr item.expr then .ok s
    else .error (.aliasConflict s.table item.aliasName)
  | none =>
    let s := if item.expr.isAggregate then { s with aggregates := true }
      else { s with plain := s.plain ++ [item.expr] }
    .ok { s with items := s.items ++ [item] }

/-- Adds items in turn. -/
def addAll (d : Dialect) (s : TableDraft) (items : List InnerItem) : Except AssemblyError TableDraft :=
  items.foldlM (add d) s

/-- The statement that has been made. -/
def query (schema : Option String) (s : TableDraft) : Query :=
  .mk (s.items.map fun item => ⟨item.expr, some item.aliasName⟩)
    (some (.table ⟨schema, s.table⟩)) none (if s.aggregates then s.plain else [])

end TableDraft

end Joinery
