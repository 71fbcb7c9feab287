import Joinery.Catalog.Basic
import Joinery.Text.Quoted

/-!
# Catalogs in databases

A database holds links in a table `join_links`. A statement selects columns of this table, of all its
rows or of those with a certain scope; `DatabaseCatalog.load` runs one and makes a link of each row.
-/

namespace Joinery

open Text

/-- A stored value. -/
inductive Cell
  | null
  | text (value : String)
  /-- Bytes that are stored as a text and are none. -/
  | brokenText (place : TextBreak)
  | integer
  | real
  | blob
  deriving DecidableEq

/-- The type of a value, by its name in a message. -/
def Cell.typeName : Cell → String
  | null => "Null"
  | text _ | brokenText _ => "Text"
  | integer => "Integer"
  | real => "Real"
  | blob => "Blob"

/-- A column of the table of links. -/
inductive LinkColumn
  | scope
  | leftTable
  | rightTable
  | leftColumns
  | rightColumns
  deriving DecidableEq

namespace LinkColumn

def name : LinkColumn → String
  | scope => "scope"
  | leftTable => "left_table"
  | rightTable => "right_table"
  | leftColumns => "left_columns"
  | rightColumns => "right_columns"

/-- The column with a name. -/
def ofName? (name : String) : Option LinkColumn :=
  [scope, leftTable, rightTable, leftColumns, rightColumns].find? (·.name = name)

end LinkColumn

/-- A row of the table of links. -/
structure StoredLink where
  scope : Cell
  leftTable : Cell
  rightTable : Cell
  leftColumns : Cell
  rightColumns : Cell
  deriving DecidableEq

def StoredLink.cell (r : StoredLink) : LinkColumn → Cell
  | .scope => r.scope
  | .leftTable => r.leftTable
  | .rightTable => r.rightTable
  | .leftColumns => r.leftColumns
  | .rightColumns => r.rightColumns

/-! ## Statements -/

/-- A statement that selects links. -/
structure LinkStatement where
  columns : List LinkColumn
  /-- Only rows with a given scope are selected. -/
  isScoped : Bool
  deriving DecidableEq

namespace LinkStatement

/-- What stands between the columns and the condition. -/
def tablePart : String := " FROM join_links"

/-- The condition on the scope of rows. -/
def scopePart : String := " WHERE scope = ?1"

/-- Reads a statement. -/
def ofText? (text : String) : Option LinkStatement := do
  let rest ← "SELECT ".toList.isPrefixOf? text.toList
  match pieces tablePart.toList rest with
  | [columns, rest] =>
    let columns ← (pieces ", ".toList columns).mapM fun c => LinkColumn.ofName? (String.ofList c)
    if rest = scopePart.toList then return ⟨columns, true⟩
    else if rest = [] ∨ rest = [' '] then return ⟨columns, false⟩
    else none
  | _ => none

/-- The number of values that have to be given to a statement. -/
def parameterCount (s : LinkStatement) : Nat :=
  if s.isScoped then 1 else 0

/-- A row is selected. -/
def selects (s : LinkStatement) (scope : Option String) (r : StoredLink) : Bool :=
  !s.isScoped || scope.any fun scope => r.scope = .text scope

end LinkStatement

/-! ## Loading -/

/-- The statement that is run where nothing else is said. -/
def defaultQuery : String :=
  "SELECT left_table, right_table, left_columns, right_columns FROM join_links"

/-- The statement that is run for a scope where nothing else is said. -/
def defaultScopedQuery : String :=
  "SELECT left_table, right_table, left_columns, right_columns FROM join_links WHERE scope = ?1"

/-- How links are taken from a database. -/
structure DatabaseCatalog where
  query : String := defaultQuery
  scope : Option String := none
  delimiter : String := defaultDelimiter
  deriving DecidableEq

namespace DatabaseCatalog

/-- The statement that is run. -/
def queryText (c : DatabaseCatalog) : String :=
  if c.scope.isSome ∧ c.query = defaultQuery then defaultScopedQuery else c.query

/-- The catalog on one line. -/
def shown (c : DatabaseCatalog) : String :=
  let scope := match c.scope with
    | some scope => "Some(" ++ quoted scope ++ ")"
    | none => "None"
  "SqliteLinkProvider \x7b query: " ++ quoted c.query ++ ", scope: " ++ scope ++ ", delimiter: " ++
    quoted c.delimiter ++ " \x7d"

/-- The text in a place of a row. -/
def textAt (row index : Nat) (column : LinkColumn) (cell : Cell) : Except CatalogError String :=
  match cell with
  | .text value => .ok value
  | .brokenText place => .error (.database (.textBroken index place))
  | .null => .error (.nullColumn row (index + 1))
  | cell => .error (.database (.columnType cell.typeName index column.name))

/-- The link in a row of a result, read from the left to the right. -/
def linkAt (delimiter : String) (columns : List LinkColumn) (stored : StoredLink) (row : Nat) :
    Except CatalogError Link := do
  let texts ← columns.zipIdx.mapM fun (column, index) =>
    textAt row index column (stored.cell column)
  match texts with
  | [leftTable, rightTable, leftColumns, rightColumns] =>
    return .ofTexts leftTable rightTable leftColumns rightColumns delimiter
  | _ => throw (.queryShape columns.length)

/-- Loads the links of a database from the rows of its table. -/
def load (c : DatabaseCatalog) (rows : List StoredLink) : Except CatalogError (List Link) := do
  match LinkStatement.ofText? c.queryText with
  | none => throw (.database .badStatement)
  | some statement =>
    if statement.columns.length ≠ 4 then throw (.queryShape statement.columns.length)
    let given := if c.scope.isSome then 1 else 0
    if given ≠ statement.parameterCount then
      throw (.database (.parameterCount given statement.parameterCount))
    (rows.filter (statement.selects c.scope)).zipIdx.mapM fun (stored, row) =>
      linkAt c.delimiter statement.columns stored row

end DatabaseCatalog

end Joinery
