import Joinery.Dialect

/-!
# Output tokens

A statement is first a list of tokens and then text. `Token.chars` is the only place where a name
gets its delimiters, so that the tokens of a statement do not depend on the dialect.
-/

namespace Joinery.Sql

/-- The reserved words of the statements that are written. -/
inductive Keyword
  | select
  | distinct
  | «from»
  | «where»
  | groupBy
  | innerJoin
  | on
  | as
  | and
  deriving DecidableEq

def Keyword.text : Keyword → String
  | select => "SELECT"
  | distinct => "DISTINCT"
  | «from» => "FROM"
  | «where» => "WHERE"
  | groupBy => "GROUP BY"
  | innerJoin => "INNER JOIN"
  | on => "ON"
  | as => "AS"
  | and => "AND"

/-- A unit of a statement's text. -/
inductive Token
  | keyword (word : Keyword)
  /-- A name that is delimited on output. -/
  | ident (name : String)
  /-- The name of an aggregate function. -/
  | call (name : String)
  | punct (mark : Char)
  | space
  /-- A line break and the indentation of the next line, two blanks a level. -/
  | line (depth : Nat)
  /-- Text that is copied as it is. -/
  | verbatim (text : String)
  deriving DecidableEq

namespace Token

/-- The characters of a token. -/
def chars (d : Dialect) : Token → List Char
  | keyword word => word.text.toList
  | ident name => d.quoteChars name.toList
  | call name => name.toList
  | punct mark => [mark]
  | space => [' ']
  | line depth => '\n' :: List.replicate (2 * depth) ' '
  | verbatim text => text.toList

/-- A keyword with a blank on each side. -/
def padded (word : Keyword) : List Token :=
  [space, keyword word, space]

/-- The name given to what stands before. -/
def aliased (name : String) : List Token :=
  padded .as ++ [ident name]

/-- The text of a list of tokens. -/
def render (d : Dialect) (tokens : List Token) : String :=
  String.ofList (tokens.flatMap (chars d))

end Token

end Joinery.Sql
