import Joinery.Assembly.TableQuery

/-!
# Putting a statement together

The inner statements of all tables are joined in the order of the join path; the outer statement
selects from them and copies the filter. An inner statement has the name of its table, so what the
outer one and the filter say about a table is said about its inner statement.
-/

namespace Joinery

open Sql

/-- A statement and what it returns. -/
structure Assembled where
  query : Query
  columns : List OutputColumn
  /-- The tables that rows are taken from, in the order in which they are joined. -/
  tables : List String

namespace Assembly

/-- A join has as many columns on one side as on the other, and one at least. -/
def checkJoin (l : Link) : Except AssemblyError Unit :=
  if l.leftColumns.length ≠ l.rightColumns.length then
    .error (.columnCounts l.leftTable l.rightTable l.leftColumns.length l.rightColumns.length)
  else if l.leftColumns.isEmpty then .error (.emptyCondition l.leftTable l.rightTable)
  else .ok ()

/-- The condition of a join. -/
def joinCondition (l : Link) : Except AssemblyError Expr :=
  match Expr.conjAll (l.predicates.map fun (left, right) =>
      .eq (.ofTable l.leftTable left) (.ofTable l.rightTable right)) with
  | some condition => .ok condition
  | none => .error (.emptyCondition l.leftTable l.rightTable)

/-- The tables of joins in first-seen order. -/
def joinedTables (joins : List Link) : List String :=
  (joins.flatMap fun l => [l.leftTable, l.rightTable]).eraseDups

/-- The tables that rows are taken from. Every selected table has to be one of them. -/
def tablesOf (selection : Selection) (joins : List Link) :
    Except AssemblyError (List String) :=
  match selection.tables, joins with
  | [], _ => .error .emptyProjection
  | [only], [] => .ok [only.table]
  | _ :: other :: _, [] => .error (.tableNotInPath other.table)
  | tables, joins =>
    let joined := joinedTables joins
    match tables.find? fun p => !joined.contains p.table with
    | some p => .error (.tableNotInPath p.table)
    | none => .ok joined

/-! ## Joining -/

/-- The tables joined so far and how. -/
structure Joined where
  tables : List String
  chain : JoinChain

/-- The inner statement of a table; an empty one if there is none. -/
def innerOf (selects : List TableQuery) (table : String) : TableQuery :=
  (selects.find? (·.table = table)).getD { table }

/-- The two tables of the first join. A table that is joined to itself shows its items once. -/
def firstJoin (schema : Option String) (selects : List TableQuery) (l : Link) :
    Except AssemblyError Joined := do
  let condition ← joinCondition l
  let left := innerOf selects l.leftTable
  let right :=
    if l.rightTable = l.leftTable then { table := l.rightTable } else innerOf selects l.rightTable
  return {
    tables := [l.leftTable, l.rightTable]
    chain := .join (.base (left.source schema)) (right.source schema) condition }

/-- Joins the one table of a join that was not joined before. A join of tables that both were adds
nothing. -/
def nextJoin (schema : Option String) (selects : List TableQuery) (joined : Joined) (l : Link) :
    Except AssemblyError Joined := do
  let condition ← joinCondition l
  let enter := fun table => {
    tables := joined.tables ++ [table]
    chain := .join joined.chain ((innerOf selects table).source schema) condition }
  match joined.tables.contains l.leftTable, joined.tables.contains l.rightTable with
  | true, true => .ok joined
  | true, false => .ok (enter l.rightTable)
  | false, true => .ok (enter l.leftTable)
  | false, false => .error (.disconnectedEdge l.leftTable l.rightTable)

/-- What rows are taken from: the joins of a path, or a single table. -/
def source (schema : Option String) (selects : List TableQuery) :
    List Link → Except AssemblyError Source
  | [] =>
    match selects with
    | [] => .error .emptyProjection
    | s :: _ => .ok (s.source schema)
  | l :: ls => do
    let joined ← ls.foldlM (nextJoin schema selects) (← firstJoin schema selects l)
    return .nested joined.chain

end Assembly

open Assembly in
/-- Puts a statement together from what the tables have to show and the joins of a path. The filter is
copied as it is. -/
def assemble (d : Dialect) (schema : Option String) (selection : Selection)
    (joins : List Link) (filter : Option String) : Except AssemblyError Assembled := do
  if selection.outputs.isEmpty then
    throw (if selection.tables.isEmpty then .emptyProjection else .noOutputColumns)
  joins.forM checkJoin
  let tables ← tablesOf selection joins
  let selects ← tables.mapM (TableQuery.ofTable d selection joins)
  let source ← Assembly.source schema selects joins
  let outputs : List SelectItem := selection.outputs.map fun c => ⟨.ofTable c.table c.aliasName, none⟩
  let query := Query.mk outputs (some source) none []
  return {
    query := (filter.map fun text => query.filter (.verbatim text)).getD query
    columns := selection.outputs
    tables }

end Joinery
