import Joinery.Filter.Basic
import Joinery.Request.Basic
import Joinery.Sql.Expr
import Joinery.Text.Pieces

/-!
# Selections

What each table of a request has to show. An entry of a request names one table and one column or
several; `ofRequest` takes the entries apart and collects their columns by table. A table stands where
it came up first: among the dimensions, then the measures, then the columns of the filter.
-/

namespace Joinery

open Text

/-- Which list of a request an entry stands in. -/
inductive EntryKind
  | dimension
  | measure
  deriving DecidableEq

def EntryKind.name : EntryKind → String
  | dimension => "dimension"
  | measure => "measure"

/-- Why a request cannot be answered. -/
inductive RequestError
  | unknownOperator (table operator : String)
  | missingTable (kind : EntryKind)
  | emptyColumns (kind : EntryKind) (table : String)
  deriving DecidableEq

def RequestError.message : RequestError → String
  | unknownOperator table operator => s!"Unknown aggregate operator '{operator}' for table '{table}'"
  | missingTable kind => "A " ++ kind.name ++ " entry has no table name"
  | emptyColumns kind table =>
    "The " ++ kind.name ++ s!" entry for table '{table}' has no columns"

/-- A column to group by and its name in the result. -/
structure Dimension where
  column : String
  aliasName : String
  deriving DecidableEq

/-- A column to aggregate and its name in the result. -/
structure Measure where
  column : String
  op : Sql.Aggregate
  aliasName : String
  deriving DecidableEq

/-- What one table has to show, apart from the columns it is joined by. -/
structure TableSelection where
  table : String
  dimensions : List Dimension := []
  measures : List Measure := []
  /-- Columns that the filter reads. -/
  filterColumns : List String := []
  deriving DecidableEq

def TableSelection.hasMeasures (p : TableSelection) : Bool :=
  !p.measures.isEmpty

/-- A column of the result, by its table and its name there. -/
structure OutputColumn where
  table : String
  aliasName : String
  deriving DecidableEq

/-- What every table has to show, and the columns of the result. -/
structure Selection where
  tables : List TableSelection
  outputs : List OutputColumn
  deriving DecidableEq

/-- The tables that have to be joined. -/
def Selection.requiredTables (s : Selection) : List String :=
  s.tables.map (·.table)

/-- What a table has to show. -/
def Selection.find? (s : Selection) (table : String) : Option TableSelection :=
  s.tables.find? (·.table = table)

/-! ## Entries of a request -/

/-- What separates the columns of an entry. -/
def columnSeparator : String := "$&"

/-- The columns of an entry. The table of the entry may stand in front of each, with a point. -/
def splitColumns (table columns : String) : List String :=
  let own := (table ++ ".").toList
  ((pieces columnSeparator.toList columns.toList).map fun piece =>
    String.ofList (dropBeginning own (trimChars piece))).filter (· ≠ "")

/-- The name of a column in the result. An entry with several columns adds the name of each to its own
name; one without a name of its own uses the given one. -/
def aliasFor (aliasName column : String) (several : Bool) (fallback : String) : String :=
  let name := trim aliasName
  if name = "" then fallback
  else if several then name ++ "_" ++ column
  else name

/-- The table of an entry, which cannot be blank. -/
def entryTable (kind : EntryKind) (table : String) : Except RequestError String :=
  let table := trim table
  if table = "" then .error (.missingTable kind) else .ok table

/-- The columns of an entry, of which there has to be one. -/
def entryColumns (kind : EntryKind) (table columns : String) : Except RequestError (List String) :=
  match splitColumns table columns with
  | [] => .error (.emptyColumns kind table)
  | columns => .ok columns

/-- The columns of an entry to group by, each with its table. -/
def DimensionEntry.columnsOf (s : DimensionEntry) : Except RequestError (List (String × Dimension)) := do
  let table ← entryTable .dimension s.table
  let columns ← entryColumns .dimension table s.columns
  return columns.map fun column =>
    (table, ⟨column, aliasFor s.aliasName column (1 < columns.length) column⟩)

/-- The columns of an entry to aggregate, each with its table. The operator is part of a name that is
not given, since the column alone may be shown as well. -/
def MeasureEntry.columnsOf (s : MeasureEntry) : Except RequestError (List (String × Measure)) := do
  let table ← entryTable .measure s.table
  let op ← (Sql.Aggregate.ofName s.operator).mapError (.unknownOperator table)
  let columns ← entryColumns .measure table s.columns
  return columns.map fun column =>
    (table, ⟨column, op,
      aliasFor s.aliasName column (1 < columns.length) (op.name ++ "_" ++ column)⟩)

/-! ## Collecting by table -/

namespace Selection

/-- The columns that belong to a table. -/
def ofTable {α : Type} (table : String) (columns : List (String × α)) : List α :=
  (columns.filter (·.1 = table)).map (·.2)

/-- Collects columns by their tables. -/
def collect (dimensions : List (String × Dimension)) (measures : List (String × Measure))
    (filterColumns : List (String × String)) : Selection where
  tables :=
    (dimensions.map (·.1) ++ measures.map (·.1) ++ filterColumns.map (·.1)).eraseDups.map
      fun table => {
        table
        dimensions := ofTable table dimensions
        measures := ofTable table measures
        filterColumns := (ofTable table filterColumns).eraseDups }
  outputs :=
    (dimensions.map (fun c => OutputColumn.mk c.1 c.2.aliasName) ++
      measures.map (fun c => OutputColumn.mk c.1 c.2.aliasName)).eraseDups

/-- What the tables of a request and of its filter have to show. -/
def ofRequest (r : QueryRequest) (filter : Option FilterExpr) : Except RequestError Selection := do
  let dimensions ← r.dimensionData.mapM (·.columnsOf)
  let measures ← r.measureData.mapM (·.columnsOf)
  let filterColumns := (filter.map (·.columns)).getD []
  return collect dimensions.flatten measures.flatten (filterColumns.map fun c => (c.table, c.column))

end Selection

end Joinery
