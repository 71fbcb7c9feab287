import Joinery.Filter.Grammar.TypeName

/-!
# Calls

`call` reads what follows the name of a function: its arguments with their clauses, and how the rows
of an aggregate are grouped, filtered and ordered. Intervals and windows are read here as well, since
each of them can hold the other.
-/

namespace Joinery.Filter.Grammar

/-! ## Intervals -/

/-- The parts of a time that can be named. -/
def timeFields : List String :=
  ["YEAR", "MONTH", "WEEK", "DAY", "DAYOFWEEK", "DAYOFYEAR", "DATE", "DATETIME", "HOUR", "MINUTE",
   "SECOND", "CENTURY", "DECADE", "DOY", "DOW", "EPOCH", "ISODOW", "ISOYEAR", "ISOWEEK", "JULIAN",
   "MICROSECOND", "MICROSECONDS", "MILLENIUM", "MILLENNIUM", "MILLISECOND", "MILLISECONDS",
   "NANOSECOND", "NANOSECONDS", "QUARTER", "TIME", "TIMEZONE", "TIMEZONE_ABBR", "TIMEZONE_HOUR",
   "TIMEZONE_MINUTE", "TIMEZONE_REGION"]

/-- The parts of a time that an interval can be counted in. -/
def intervalUnits : List String :=
  timeFields.filter fun f =>
    f ∉ ["DAYOFWEEK", "DAYOFYEAR", "DATE", "DATETIME", "ISOWEEK", "TIME", "TIMEZONE_ABBR",
      "TIMEZONE_REGION"]

/-- The name of a part of a time; one dialect takes other names and texts as well. -/
def timeField (d : Dialect) : Read String := do
  let key ← peekKey
  match ← next with
  | some (.word ..) => if timeFields.contains key ∨ d = .postgres then return key else refuse
  | some (.text .single _) => if d = .postgres then return "" else refuse
  | _ => refuse

/-- An interval: a value and what it is counted in. One dialect takes a whole expression for the value
and asks for the unit. -/
def interval (d : Dialect) (inner : Inner) : Read Tree := do
  let value ← if d = .mysql then inner.expr else inner.operand
  if intervalUnits.contains (← peekKey) then do
    let unit ← timeField d
    if unit = "SECOND" then optionalSizes
    else do
      optionalSize
      let _ ← whenever (word? "TO") do
        if (← timeField d) = "SECOND" then optionalSize
  else if d = .mysql then refuse
  return .form "INTERVAL" [value]

/-! ## Orders and windows -/

/-- An expression to order by. -/
def orderItem (inner : Inner) : Read Tree := do
  let e ← inner.expr
  let _ ← oneOf? ["ASC", "DESC"]
  if ← words? ["NULLS", "FIRST"] then return e
  let _ ← words? ["NULLS", "LAST"]
  return e

/-- The expressions to order by, if there are any. -/
def orderBy (d : Dialect) (inner : Inner) : Read (List Tree) := do
  return (← whenever (words? ["ORDER", "BY"]) (items d (orderItem inner))).getD []

/-- An end of the rows that a window shows. -/
def frameBound (d : Dialect) (inner : Inner) : Read (List Tree) := do
  if ← words? ["CURRENT", "ROW"] then return []
  else do
    let rows ←
      if ← word? "UNBOUNDED" then pure []
      else
        match ← peek with
        | some (.text .single _) => do pure [← interval d inner]
        | _ => do pure [← inner.expr]
    let _ ← oneOf ["PRECEDING", "FOLLOWING"]
    return rows

/-- The rows that a window shows. -/
def frame (d : Dialect) (inner : Inner) : Read (List Tree) := do
  let _ ← oneOf ["ROWS", "RANGE", "GROUPS"]
  if ← word? "BETWEEN" then do
    let first ← frameBound d inner
    word "AND"
    return first ++ (← frameBound d inner)
  else frameBound d inner

/-- A window after its opening parenthesis. -/
def window (d : Dialect) (inner : Inner) : Read (List Tree) := do
  match ← peek with
  | some l =>
    match l with
    | .word .. => if reservedWords.contains l.key then pure () else do let _ ← name
    | _ => pure ()
  | none => pure ()
  let groups ← whenever (words? ["PARTITION", "BY"]) (items d inner.expr)
  let order ← orderBy d inner
  let rows ←
    if ← symbol? ")" then pure []
    else do
      let rows ← frame d inner
      symbol ")"
      pure rows
  return groups.getD [] ++ order ++ rows

/-! ## Arguments -/

/-- What stands for all columns. -/
def star : Tree :=
  .form "*" []

/-- Names with points between them end in a star. The first name was read. -/
def endsInStar : Nat → Read Bool
  | 0 => refuse
  | bound + 1 => do
    if ← symbol? "." then
      match ← next with
      | some (.word ..) | some (.text .single _) => endsInStar bound
      | some (.symbol "*") => return true
      | _ => refuse
    else return false

/-- An expression, or what stands for all columns, of one table or of all. -/
def exprOrStar (inner : Inner) : Read Tree := do
  let start ← get
  match ← next with
  | some (.symbol "*") => return star
  | some (.word ..) | some (.text .single _) =>
    if ← withBound endsInStar then return star
    else do
      set start
      inner.expr
  | _ => do
    set start
    inner.expr

/-- What stands between the name of an argument and its value. -/
def argumentMark (d : Dialect) : Read Unit := do
  match d with
  | .tsql => symbol ":"
  | .duckdb => if ← symbol? ":=" then return () else symbol "=>"
  | .postgres | .mysql => symbol "=>"

/-- An argument with a name. In one dialect the name can be any expression. -/
def namedArgument (d : Dialect) (inner : Inner) : Read Tree := do
  if d = .tsql then do
    let name ← inner.expr
    argumentMark d
    return .form ":" [name, ← exprOrStar inner]
  else do
    let _ ← name
    argumentMark d
    exprOrStar inner

/-- An argument of a call. -/
def argument (d : Dialect) (inner : Inner) : Read Tree := do
  match ← attempt (namedArgument d inner) with
  | some arg => return arg
  | none => exprOrStar inner

/-- Whether nulls count; gives whether that was said. -/
def nullTreatment : Read Bool := do
  match ← oneOf? ["RESPECT", "IGNORE"] with
  | some _ => do
    word "NULLS"
    return true
  | none => return false

/-- What to do with a text that grows too long. -/
def overflow (inner : Inner) : Read (List Tree) := do
  if ← words? ["ON", "OVERFLOW"] then
    if ← word? "ERROR" then return []
    else do
      word "TRUNCATE"
      let filler ←
        match ← peek with
        | some (.text .single _) | some (.text .escaped _) | some (.text .codePoints _)
        | some (.text .national _) | some (.text .hex _) => do pure [← inner.expr]
        | _ => pure []
      let _ ← oneOf ["WITH", "WITHOUT"]
      word "COUNT"
      return filler
  else return []

/-- The arguments of a call after the opening parenthesis, and whether they say how nulls count. -/
def arguments (d : Dialect) (inner : Inner) : Read (List Tree × Bool) := do
  if ← symbol? ")" then return ([], false)
  else do
    let all ← word? "ALL"
    let distinct ← word? "DISTINCT"
    if all && distinct then refuse
    let args ← items d (argument d inner)
    let nulls ← if d = .duckdb then nullTreatment else pure false
    let order ← orderBy d inner
    let limit ← whenever (word? "LIMIT") inner.expr
    if d = .mysql then
      let _ ← whenever (word? "SEPARATOR") (value d)
    let filler ← overflow inner
    symbol ")"
    return (args ++ order ++ limit.toList ++ filler, nulls)

/-- The condition on the rows of an aggregate. The word for it alone says nothing. -/
def aggregateFilter (d : Dialect) (inner : Inner) : Read (List Tree) := do
  if d = .postgres ∨ d = .duckdb then
    if ← word? "FILTER" then
      if ← symbol? "(" then
        if ← word? "WHERE" then
          let e ← inner.expr
          symbol ")"
          return [e]
  return []

/-- The window of an aggregate, which may have a name. -/
def rowsOver (d : Dialect) (inner : Inner) : Read (List Tree) := do
  if ← word? "OVER" then
    if ← symbol? "(" then window d inner
    else do
      let _ ← name
      return []
  else return []

/-- The form of a call of a function. -/
def callHead (function : List Name) : String :=
  ".".intercalate (function.map (·.text)) ++ "()"

/-- A call after the name of its function. -/
def call (d : Dialect) (inner : Inner) (function : List Name) : Read Tree := do
  symbol "("
  let (args, nulls) ← arguments d inner
  let group ← whenever (words? ["WITHIN", "GROUP"]) do
    inParens do
      words ["ORDER", "BY"]
      items d (orderItem inner)
  let filter ← aggregateFilter d inner
  if !nulls then
    let _ ← nullTreatment
  let rows ← rowsOver d inner
  return .form (callHead function) (args ++ filter ++ rows ++ group.getD [])

end Joinery.Filter.Grammar
