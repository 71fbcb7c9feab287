import Joinery.Filter.Grammar.Operator

/-!
# Sources of a statement

Tables, statements in place of tables, and how they are joined. Names of tables and of their columns
are no references; expressions in arguments, hints and join conditions are read as any other. Rows made
by `JSON_TABLE`, `OPENJSON`, `PIVOT`, `UNPIVOT` or `MATCH_RECOGNIZE` are not read.
-/

namespace Joinery.Filter.Grammar

variable (d : Dialect) (inner : Inner)

/-! ## Other names -/

/-- Takes another name, if there is one. Some words cannot be one without the word for naming before
them. -/
def otherName? (reserved : List String) : Read (Option Tree) := do
  let named ← word? "AS"
  match ← peek with
  | some (.word value quote) =>
    if named || !reserved.contains (Lexeme.word value quote).key then do
      let _ ← next
      return some (.literal (.word value quote))
    else return none
  | some (.text .single value) => do
    let _ ← next
    return some (.literal (.text .single value))
  | some (.text .double value) => do
    let _ ← next
    return some (.literal (.text .double value))
  | _ => if named then refuse else return none

/-- Names of columns in parentheses, each of which may have a type. -/
def columnNames : Read Unit := do
  if ← symbol? "(" then
    let _ ← items d do
      let _ ← name
      let _ ← attempt (typeName d)
    symbol ")"

/-- Takes another name of a table, if there is one, with names for its columns. -/
def tableAlias : Read Unit := do
  match ← otherName? notTableAliases with
  | some _ => columnNames d
  | none => return ()

/-! ## Joins -/

/-- What has to be read between a join and its condition. -/
inductive JoinKind
  /-- There is no condition. -/
  | crossed
  /-- The condition is that columns of the same name agree. -/
  | natural
  | constrained
  /-- A condition that finds the nearest row stands before the usual one. -/
  | nearest

/-- The words of a join after the one that comes first in them, and then the word for joining. -/
def joinSide : Read Unit := do
  match ← peekKey with
  | "JOIN" => word "JOIN"
  | "INNER" => words ["INNER", "JOIN"]
  | "LEFT" | "RIGHT" => do
    let _ ← next
    let _ ← oneOf? ["OUTER", "SEMI", "ANTI"]
    word "JOIN"
  | "ANTI" | "SEMI" => do
    let _ ← next
    word "JOIN"
  | "FULL" => do
    word "FULL"
    let _ ← word? "OUTER"
    word "JOIN"
  | _ => refuse

/-- The words that a join with a condition begins with. -/
def joinWords : List String :=
  ["INNER", "JOIN", "LEFT", "RIGHT", "ANTI", "SEMI", "FULL"]

/-- Takes the words for a join, if there is one. -/
def joinKind? : Read (Option JoinKind) := do
  let _ ← word? "GLOBAL"
  if ← word? "CROSS" then do
    let _ ← oneOf ["JOIN", "APPLY"]
    return some .crossed
  else if ← words? ["OUTER", "APPLY"] then return some .crossed
  else if ← words? ["ASOF", "JOIN"] then return some .nearest
  else do
    let natural ← word? "NATURAL"
    if natural || joinWords.contains (← peekKey) then do
      joinSide
      return some (if natural then .natural else .constrained)
    else if ["OUTER", "ASOF"].contains (← peekKey) then refuse
    else return none

/-- The usual condition of a join, which may be left out. -/
def joinCondition : Read (List Tree) := do
  if ← word? "ON" then return [← inner.expr]
  else if ← word? "USING" then do
    let _ ← nameList d
    return []
  else return []

/-- The joins of a source, at most as many as given. -/
def joinsWithin (source : Read Tree) : Nat → Read (List Tree)
  | 0 => return []
  | bound + 1 => do
    match ← joinKind? with
    | none => return []
    | some kind => do
      let joined ← source
      let conditions ←
        match kind with
        | .crossed | .natural => pure []
        | .constrained => joinCondition d inner
        | .nearest => do
          word "MATCH_CONDITION"
          let nearest ← inParens inner.expr
          pure (nearest :: (← joinCondition d inner))
      return .form "JOIN" (joined :: conditions) :: (← joinsWithin source bound)

/-- A source and what is joined to it. -/
def joinedSource (source : Read Tree) : Read Tree := do
  let first ← source
  let joins ← withBound (joinsWithin d inner source)
  return if joins.isEmpty then first else .form "JOINS" (first :: joins)

/-! ## Sources -/

/-- A statement in place of a table, after the opening parenthesis. -/
def derived : Read Tree := do
  let q ← inner.query
  symbol ")"
  tableAlias d
  return .form "SUBQUERY" [q]

/-- The arguments of a table that is computed, after the opening parenthesis. -/
def tableArguments : Read (List Tree) := do
  if ← symbol? ")" then return []
  else do
    let args ← items d (argument d inner)
    symbol ")"
    return args

/-- A table by its name. -/
def table : Read Tree := do
  let _ ← dottedName
  if d = .mysql then
    let _ ← whenever (word? "PARTITION") (nameList d)
  let version ←
    if d = .tsql then whenever (words? ["FOR", "SYSTEM_TIME", "AS", "OF"]) inner.expr else pure none
  let args ← whenever (symbol? "(") (tableArguments d inner)
  let _ ← words? ["WITH", "ORDINALITY"]
  tableAlias d
  let isHinted := (← peekKey) = "WITH" ∧ (← ahead 1) = some (.symbol "(")
  let hints ←
    if isHinted then do
      word "WITH"
      inParens (items d inner.expr)
    else pure []
  return .form "TABLE" (args.getD [] ++ hints ++ version.toList)

/-- Sources in parentheses, after the opening one: more than one of them, joined to each other. -/
def joinedInParens (source : Read Tree) : Read Tree := do
  match ← joinedSource d inner source with
  | .form "JOINS" parts => do
    symbol ")"
    tableAlias d
    return .form "JOINS" parts
  | _ => refuse

/-- A source, in front of which no more parentheses stand than given. -/
def sourceWithin : Nat → Read Tree
  | 0 => refuse
  | bound + 1 => do
    if ← word? "LATERAL" then
      if ← symbol? "(" then derived d inner
      else do
        let _ ← dottedName
        symbol "("
        let args ← tableArguments d inner
        tableAlias d
        return .form "TABLE" args
    else if ← word? "TABLE" then do
      let e ← inParens inner.expr
      tableAlias d
      return .form "TABLE" [e]
    else if ← symbol? "(" then
      match ← attempt (derived d inner) with
      | some q => return q
      | none => joinedInParens d inner (sourceWithin bound)
    else if d = .postgres && (← peekKey) == "UNNEST" then do
      word "UNNEST"
      let es ← inParens (items d inner.expr)
      let _ ← words? ["WITH", "ORDINALITY"]
      tableAlias d
      if ← words? ["WITH", "OFFSET"] then
        let _ ← otherName? notColumnAliases
      return .form "UNNEST" es
    else table d inner

/-- A source. -/
def source : Read Tree :=
  withBound (sourceWithin d inner)

end Joinery.Filter.Grammar
