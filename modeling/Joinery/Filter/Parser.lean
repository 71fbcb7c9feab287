import Joinery.Dialect
import Joinery.Text.Blank

/-!
# Filters

A filter is one expression over columns that are written as `table.column`. Reading it lists the
columns it mentions; the text itself goes into a statement as it is. Reading therefore only decides
which tables have to be joined and which columns each of them has to expose.

How a text is cut into tokens and which tokens are an expression is the matter of a parser for SQL.
`SqlParser` is what a filter asks of one, and `SqlParser.readFilter` reads a filter with any.
-/

namespace Joinery

open Text

/-- Why a text is no filter. -/
inductive FilterError
  /-- The text is not an expression. -/
  | unreadable
  /-- The text begins with an expression, behind which something else stands. -/
  | trailing (token : String)
  /-- A column without a table. -/
  | unqualified (column : String)
  /-- A column with more than a table in front. -/
  | overQualified (reference : String)
  deriving DecidableEq

def FilterError.message : FilterError → String
  | unreadable => "Filter is not a valid SQL expression"
  | trailing token =>
    s!"Filter is not a valid SQL expression: unexpected '{token}' after the expression"
  | unqualified column => s!"Filter column '{column}' must be qualified with its table (table.column)"
  | overQualified reference =>
    s!"Filter column '{reference}' must be written as table.column, without a schema"

/-- A column that a filter reads, under the names that the database knows. -/
structure FilterColumn where
  table : String
  column : String
  deriving DecidableEq

/-- A filter and the columns it reads, each once, in the order in which they come up. -/
structure FilterExpr where
  /-- What was written, without blanks at its ends. -/
  text : String
  columns : List FilterColumn
  deriving DecidableEq

namespace FilterExpr

/-- The tables that a filter reads. -/
def tables (f : FilterExpr) : List String :=
  (f.columns.map (·.table)).eraseDups

/-- The columns that a filter reads from a table. -/
def columnsFor (f : FilterExpr) (table : String) : List String :=
  (f.columns.filter (·.table = table)).map (·.column)

end FilterExpr

namespace Filter

/-- A name and whether it was written between delimiters. -/
structure Name where
  text : String
  quoted : Bool
  deriving DecidableEq

/-- The name that the database knows. -/
def Name.resolved (d : Dialect) (n : Name) : String :=
  if n.quoted then n.text else d.fold n.text

/-- What an expression is to a reader who looks for columns. -/
inductive Mention
  | identifier (name : Name)
  /-- Names with points between them. -/
  | compound (names : List Name)
  | other
  deriving DecidableEq

/-- What is found where an expression is shown behind others: one more column, unless it was found
before. A reference without exactly one table in front ends the search. -/
def Mention.addTo (d : Dialect) (found : List FilterColumn) :
    Mention → Except FilterError (List FilterColumn)
  | identifier column | compound [column] => .error (.unqualified column.text)
  | compound [table, column] =>
    let c : FilterColumn := ⟨table.resolved d, column.resolved d⟩
    .ok (if c ∈ found then found else found ++ [c])
  | compound names => .error (.overQualified (".".intercalate (names.map (·.text))))
  | other => .ok found

/-- A parser of SQL expressions. -/
structure SqlParser where
  Token : Type
  Expr : Type
  /-- The tokens of a text, without blanks and comments, if it can be cut into tokens. -/
  tokens? : Dialect → String → Option (List Token)
  /-- Reads an expression off the front of some tokens. What is behind it is left. -/
  expression : Dialect → List Token → Option (Expr × List Token)
  /-- How a token is shown in a message. -/
  shown : Token → String
  mention : Expr → Mention
  /-- Shows the expressions inside an expression to a visitor, one after the other. The visitor may
  end the visit with an error. -/
  visit {σ ε : Type} : (σ → Expr → Except ε σ) → σ → Expr → Except ε σ

namespace SqlParser

variable (r : SqlParser) (d : Dialect)

/-- Reads a text as one expression, with nothing behind it. -/
def readWhole (text : String) : Except FilterError r.Expr :=
  match r.tokens? d text with
  | none => .error .unreadable
  | some ts =>
    match r.expression d ts with
    | none => .error .unreadable
    | some (e, []) => .ok e
    | some (_, t :: _) => .error (.trailing (r.shown t))

/-- The columns of an expression, or what is wrong with the first reference that is none. -/
def columns (e : r.Expr) : Except FilterError (List FilterColumn) :=
  r.visit (fun found e => (r.mention e).addTo d found) [] e

/-- Reads a filter. A blank text is none. -/
def readFilter (text : String) : Except FilterError (Option FilterExpr) :=
  if isBlankText text then .ok none
  else do
    let text := trim text
    let e ← r.readWhole d text
    return some ⟨text, ← r.columns d e⟩

end SqlParser

end Filter

end Joinery
