import Joinery.Filter.Lexer
import Joinery.Filter.Grammar.Nesting

/-!
# The parser of the dialects

`sqlParser` reads filters by the lexer and the grammar of this library, and `FilterExpr.ofText` is how
a request's condition is read. What is proved about filters is proved for every parser that keeps
what a parser of SQL promises, and `sqlParser` is one of them.

Expressions are read in full, but not every statement inside one: rows cannot come from `JSON_TABLE`,
`OPENJSON`, `PIVOT`, `UNPIVOT` or `MATCH_RECOGNIZE`, and a statement gives rows without `INSERT` or
`UPDATE` in it. A text with one of these is refused.
-/

namespace Joinery

open Joinery.Filter

/-- The parser of the dialects. -/
@[reducible]
def Filter.sqlParser : SqlParser where
  Token := Lexeme
  Expr := Tree
  tokens? := lexemes
  expression d ls := (Grammar.expression d ls).toOption
  shown := Lexeme.shown
  mention := Tree.mention
  visit := Tree.visit

/-- Reads a filter. A blank text is none. -/
def FilterExpr.ofText (d : Dialect) (text : String) : Except FilterError (Option FilterExpr) :=
  sqlParser.readFilter d text

end Joinery
