import Joinery.Filter.Grammar.Source

/-!
# Statements inside a filter

`query` reads a statement that gives rows. The parts of its tree stand in the order of the clauses, so
the references in what is selected come before those in the sources and the conditions. Limits come
before offsets, whichever was written first. `INSERT` and `UPDATE` cannot stand in place of rows.
-/

namespace Joinery.Filter.Grammar

variable (d : Dialect) (inner : Inner)

/-! ## What is selected -/

/-- An expression with the name under which it takes the place of a column. -/
def replacement : Read Tree := do
  let e ← inner.expr
  let _ ← word? "AS"
  let _ ← name
  return e

/-- What can follow a star: columns that are left out, and expressions in place of columns. -/
def starOptions : Read (List Tree) := do
  if d = .duckdb then
    if ← word? "EXCLUDE" then
      if (← peek) = some (.symbol "(") then
        let _ ← nameList d
      else
        let _ ← name
    return (← whenever (word? "REPLACE") (inParens (items d (replacement inner)))).getD []
  else return []

/-- The word before the sources of a statement, read as a name. -/
def isMisplacedFrom : Tree → Bool
  | .reference [n] => !n.quoted && (Lexeme.word n.text none).key == "FROM"
  | _ => false

/-- A selected expression with its name. One dialect can name it by a comparison with the name. -/
def selected : Read Tree := do
  match d, ← exprOrStar inner with
  | _, .form "*" [] => return .form "*" (← starOptions d inner)
  | .tsql, .form "=" [.reference [_], right] => return right
  | _, e =>
    if isMisplacedFrom e then refuse
    else do
      let _ ← otherName? notColumnAliases
      return e

/-- Which of equal rows are kept. -/
def distinctness : Read (List Tree) := do
  let all ← word? "ALL"
  if ← word? "DISTINCT" then
    if all then refuse
    else if ← word? "ON" then
      inParens do
        if (← peek) = some (.symbol ")") then return [] else items d inner.expr
    else return []
  else return []

/-- How many of the first rows are kept. -/
def top : Read (List Tree) := do
  if ← word? "TOP" then
    let count ←
      if (← peek) = some (.symbol "(") then pure [← inParens inner.expr]
      else do
        wholeNumber
        pure []
    let _ ← word? "PERCENT"
    let _ ← words? ["WITH", "TIES"]
    return count
  else return []

/-- The table that selected rows are put in. -/
def target : Read Unit := do
  if ← word? "INTO" then
    let _ ← oneOf? ["TEMP", "TEMPORARY"]
    let _ ← word? "UNLOGGED"
    let _ ← word? "TABLE"
    let _ ← dottedName

/-! ## Groups and windows -/

/-- Expressions in parentheses, which may be empty. -/
def tuple : Read (List Tree) := do
  symbol "("
  if ← symbol? ")" then return []
  else do
    let es ← items d inner.expr
    symbol ")"
    return es

/-- Expressions in parentheses, or a single one without them. -/
def tupleOrExpr : Read (List Tree) := do
  if (← peek) = some (.symbol "(") then tuple d inner else return [← inner.expr]

/-- What rows are grouped by. Two dialects know several groupings at once. -/
def groupItem : Read Tree := do
  if d = .postgres ∨ d = .duckdb then
    if ← words? ["GROUPING", "SETS"] then
      return .form "GROUPING SETS" (← inParens (items d (tuple d inner))).flatten
    else if ← word? "CUBE" then
      return .form "CUBE" (← inParens (items d (tupleOrExpr d inner))).flatten
    else if ← word? "ROLLUP" then
      return .form "ROLLUP" (← inParens (items d (tupleOrExpr d inner))).flatten
    else if (← peek) = some (.symbol "(") ∧ (← ahead 1) = some (.symbol ")") then do
      modify (·.drop 2)
      return .form "()" []
    else inner.expr
  else inner.expr

/-- What rows are grouped by, if they are. -/
def groups : Read (List Tree) := do
  if ← words? ["GROUP", "BY"] then
    if ← word? "ALL" then return [] else items d (groupItem d inner)
  else return []

/-- Expressions after some words, if these come next. -/
def listAfter (keys : List String) : Read (List Tree) := do
  return (← whenever (words? keys) (items d inner.expr)).getD []

/-- An expression after a word, if that comes next. -/
def exprAfter (key : String) : Read (List Tree) := do
  return (← whenever (word? key) inner.expr).toList

/-- A window with a name. -/
def namedWindow : Read (List Tree) := do
  let _ ← name
  word "AS"
  symbol "("
  window d inner

/-- Windows with names, if there are any. -/
def namedWindows : Read (List Tree) := do
  return ((← whenever (word? "WINDOW") (items d (namedWindow d inner))).getD []).flatten

/-- Windows with names and a condition on them, in either order. -/
def windowsAndCondition : Read (List Tree) := do
  if (← peekKey) = "QUALIFY" then do
    let condition ← exprAfter inner "QUALIFY"
    return (← namedWindows d inner) ++ condition
  else return (← namedWindows d inner) ++ (← exprAfter inner "QUALIFY")

/-! ## Statements -/

/-- A selection of rows, after its first word. -/
def selection : Read Tree := do
  let distinct ← distinctness d inner
  let count ← top inner
  let columns ← items d (selected d inner)
  target
  let sources ← whenever (word? "FROM") (items d (joinedSource d inner (source d inner)))
  let condition ← exprAfter inner "WHERE"
  let group ← groups d inner
  let cluster ← listAfter d inner ["CLUSTER", "BY"]
  let distribution ← listAfter d inner ["DISTRIBUTE", "BY"]
  let sort ← listAfter d inner ["SORT", "BY"]
  let having ← exprAfter inner "HAVING"
  let windows ← windowsAndCondition d inner
  return .form "SELECT" <|
    distinct ++ count ++ columns ++ sources.getD [] ++ condition ++ group ++ cluster ++ distribution ++
      sort ++ having ++ windows

/-- A row of values. One dialect has an empty one. -/
def row : Read (List Tree) := do
  let _ ← word? "ROW"
  if d = .mysql then tuple d inner else inParens (items d inner.expr)

/-- The name of a table after the word for it. Three lexemes are taken, however short the name is. -/
def wholeTable : Read Tree := do
  let first ← next
  let second ← next
  let third ← next
  let isName : Option Lexeme → Bool
    | some (.word ..) => true
    | _ => false
  if isName first && (second != some (.symbol ".") || isName third) then return .form "TABLE" []
  else refuse

/-- Rows that are selected, listed, in parentheses or those of a table. -/
def rows : Read Tree := do
  if ← word? "SELECT" then selection d inner
  else if ← symbol? "(" then do
    let q ← inner.query
    symbol ")"
    return .form "()" [q]
  else if ← word? "VALUES" then return .form "VALUES" (← items d (row d inner)).flatten
  else if ← word? "TABLE" then wholeTable
  else refuse

/-- Takes the words between two sets of rows, if they come next. -/
def setOperator? : Read Bool := do
  if (← oneOf? ["UNION", "EXCEPT", "INTERSECT"]).isSome then do
    if ← words? ["DISTINCT", "BY", "NAME"] then return true
    else if ← words? ["BY", "NAME"] then return true
    else if ← word? "ALL" then do
      let _ ← words? ["BY", "NAME"]
      return true
    else do
      let _ ← word? "DISTINCT"
      return true
  else return false

/-- A statement with a name, for use in the one that follows. -/
def namedQuery : Read Tree := do
  let _ ← name
  if (← peekKey) ≠ "AS" then columnNames d
  word "AS"
  if d = .postgres then
    if !(← word? "MATERIALIZED") then
      let _ ← words? ["NOT", "MATERIALIZED"]
  let q ← inParens inner.query
  let _ ← whenever (word? "FROM") name
  return q

/-- The statements with a name in front of another one. -/
def namedQueries : Read (List Tree) := do
  if ← word? "WITH" then
    let _ ← word? "RECURSIVE"
    items d (namedQuery d inner)
  else return []

/-- How many rows are kept and how many are passed over before them. -/
structure Limits where
  limit : Option Tree := none
  offset : Option Tree := none

/-- Reads a limit and then an offset, each if it comes next and was not read before. One dialect
writes both after one word, the offset first. -/
def moreLimits (limits : Limits) : Read Limits := do
  let limit ←
    if limits.limit.isNone then do
      if ← word? "LIMIT" then
        if ← word? "ALL" then pure none else pure (some (← inner.expr))
      else pure none
    else pure limits.limit
  let offset ←
    if limits.offset.isNone then do
      if ← word? "OFFSET" then
        let e ← inner.expr
        let _ ← oneOf? ["ROW", "ROWS"]
        pure (some e)
      else pure none
    else pure limits.offset
  match limit, offset with
  | some e, none =>
    if d = .mysql then
      if ← symbol? "," then return ⟨← inner.expr, e⟩
    return ⟨e, none⟩
  | _, _ => return ⟨limit, offset⟩

/-- How many rows are fetched, after the word for it. -/
def fetch : Read Unit := do
  let _ ← oneOf ["FIRST", "NEXT"]
  if (← oneOf? ["ROW", "ROWS"]).isNone then
    let _ ← value d
    let _ ← word? "PERCENT"
    let _ ← oneOf ["ROW", "ROWS"]
  if !(← word? "ONLY") then words ["WITH", "TIES"]

/-- What the rows are read for, after the word for it, at most as often as given. -/
def purposesWithin : Nat → Read Unit
  | 0 => return ()
  | bound + 1 => do
    if ← word? "FOR" then
      if ← word? "BROWSE" then return ()
      else do
        let _ ← oneOf ["UPDATE", "SHARE"]
        let _ ← whenever (word? "OF") dottedName
        if !(← word? "NOWAIT") then
          let _ ← words? ["SKIP", "LOCKED"]
        purposesWithin bound

/-- A statement that gives rows. -/
def query : Read Tree := do
  let named ← namedQueries d inner
  let first ← rows d inner
  let others ← repeated setOperator? (rows d inner)
  let order ← orderBy d inner
  let limits ← moreLimits d inner (← moreLimits d inner { })
  let _ ← whenever (word? "FETCH") (fetch d)
  withBound purposesWithin
  return .form "QUERY" <|
    named ++ first :: others ++ order ++ limits.limit.toList ++ limits.offset.toList

end Joinery.Filter.Grammar
