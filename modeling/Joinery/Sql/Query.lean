import Joinery.Sql.Expr

/-!
# Statements

A `Query` selects from a table, from another query under an alias, or from a chain of joins in
parentheses. Its tokens carry the indentation: what stands in parentheses is one level deeper, so a
statement reads from top to bottom like the joins it makes.
-/

namespace Joinery.Sql

/-- An expression of the select list and the name it gets. -/
structure SelectItem where
  expr : Expr
  aliasName : Option String := none
  deriving DecidableEq

/-- A stored table. -/
structure TableName where
  schema : Option String := none
  table : String
  deriving DecidableEq

mutual

/-- A statement that selects rows. -/
inductive Query
  | mk (select : List SelectItem) (source : Option Source) (condition : Option Expr)
      (groupBy : List Expr)

/-- What rows are taken from. -/
inductive Source
  | table (ref : TableName)
  | derived (query : Query) (name : String)
  | nested (chain : JoinChain)

/-- A source, or a shorter chain with one more source joined to it. -/
inductive JoinChain
  | base (source : Source)
  | join (chain : JoinChain) (source : Source) (condition : Expr)

end

def SelectItem.tokens (item : SelectItem) : List Token :=
  item.expr.tokens ++ (item.aliasName.map Token.aliased).getD []

def TableName.tokens (ref : TableName) : List Token :=
  (ref.schema.map fun s => [.ident s, .punct '.']).getD [] ++ [.ident ref.table]

namespace Query

def select : Query → List SelectItem
  | mk items _ _ _ => items

def source : Query → Option Source
  | mk _ source _ _ => source

def condition : Query → Option Expr
  | mk _ _ condition _ => condition

def groupBy : Query → List Expr
  | mk _ _ _ groupBy => groupBy

/-- The query with one more condition on its rows. -/
def filter : Query → Expr → Query
  | mk items source condition groupBy, e =>
    mk items source (some ((condition.map (Expr.conj · e)).getD e)) groupBy

/-- The select list, one item a line. -/
def selectTokens (depth : Nat) (items : List SelectItem) : List Token :=
  .keyword .select :: [Token.punct ','].intercalate (items.map (.line (depth + 1) :: ·.tokens))

def conditionTokens (depth : Nat) : Option Expr → List Token
  | none => []
  | some e => [.line depth, .keyword .where, .space] ++ e.tokens

def groupByTokens (depth : Nat) : List Expr → List Token
  | [] => []
  | es => [.line depth, .keyword .groupBy, .space] ++
      [Token.punct ',', .space].intercalate (es.map Expr.tokens)

end Query

mutual

/-- The tokens of a query whose clauses start on lines of the given depth. -/
def Query.tokensAt (depth : Nat) : Query → List Token
  | .mk items none condition groupBy =>
    Query.selectTokens depth items ++ Query.conditionTokens depth condition ++
      Query.groupByTokens depth groupBy
  | .mk items (some source) condition groupBy =>
    Query.selectTokens depth items ++ [.line depth, .keyword .from, .space] ++
      source.tokensAt depth ++ Query.conditionTokens depth condition ++
      Query.groupByTokens depth groupBy

def Source.tokensAt (depth : Nat) : Source → List Token
  | .table ref => ref.tokens
  | .derived query name =>
    [.punct '(', .line (depth + 1)] ++ query.tokensAt (depth + 1) ++
      [.line depth, .punct ')'] ++ Token.aliased name
  | .nested chain =>
    [.punct '(', .line (depth + 1)] ++ chain.tokensAt (depth + 1) ++ [.line depth, .punct ')']

def JoinChain.tokensAt (depth : Nat) : JoinChain → List Token
  | .base source => source.tokensAt depth
  | .join chain source condition =>
    chain.tokensAt depth ++ [.line depth, .keyword .innerJoin, .space] ++ source.tokensAt depth ++
      Token.padded .on ++ condition.tokens

end

/-- The tokens of a whole statement. -/
def Query.tokens (q : Query) : List Token :=
  q.tokensAt 0

/-- The text of a statement. -/
def Query.toSql (q : Query) (d : Dialect) : String :=
  Token.render d q.tokens

/-- The text of an expression. -/
def Expr.toSql (e : Expr) (d : Dialect) : String :=
  Token.render d e.tokens

end Joinery.Sql
