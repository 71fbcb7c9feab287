import Joinery.Filter.Grammar.Basic

/-!
# How tightly operators bind

A number for each group of operators, larger ones for operators that bind more tightly. One dialect
has an order of its own. `precedenceAt` looks at the lexemes ahead and gives zero where no operator
comes next.
-/

namespace Joinery.Filter.Grammar

/-- How tightly each group of operators binds. -/
structure Precedence where
  cast : Nat
  subscript : Nat
  timeZone : Nat
  product : Nat
  sum : Nat
  concatenation : Nat
  exclusiveOr : Nat
  bitAnd : Nat
  bitOr : Nat
  power : Nat
  shift : Nat
  /-- Operators of two characters that stand for none of the usual operations. -/
  doubled : Nat
  /-- Operators on documents, and those that a user defines. -/
  special : Nat
  range : Nat
  comparison : Nat
  pattern : Nat
  test : Nat
  negation : Nat
  conjunction : Nat
  disjunction : Nat
  /-- The word that names an order of texts, where it stands behind an operator. -/
  collation : Nat

/-- The usual order. -/
def Precedence.usual : Precedence where
  cast := 50
  subscript := 50
  timeZone := 41
  product := 40
  sum := 30
  concatenation := 40
  exclusiveOr := 24
  bitAnd := 23
  bitOr := 21
  power := 22
  shift := 22
  doubled := 50
  special := 16
  range := 20
  comparison := 20
  pattern := 19
  test := 17
  negation := 15
  conjunction := 10
  disjunction := 5
  collation := 0

/-- The order of the dialect that has its own. -/
def Precedence.ofPostgres : Precedence where
  cast := 140
  subscript := 130
  timeZone := 110
  product := 90
  sum := 80
  concatenation := 70
  exclusiveOr := 75
  bitAnd := 70
  bitOr := 70
  power := 100
  shift := 70
  doubled := 70
  special := 70
  range := 60
  comparison := 50
  pattern := 60
  test := 40
  negation := 30
  conjunction := 20
  disjunction := 10
  collation := 120

/-- How tightly the operators of a dialect bind. -/
def precedence (d : Dialect) : Precedence :=
  match d with
  | .postgres => .ofPostgres
  | .duckdb | .mysql | .tsql => .usual

/-- The words that turn a negation into a part of the operator. -/
def negatedPrecedence (p : Precedence) (key : String) : Nat :=
  match key with
  | "IN" | "BETWEEN" => p.range
  | "LIKE" | "ILIKE" | "RLIKE" | "REGEXP" | "SIMILAR" => p.pattern
  | _ => 0

/-- How tightly a word binds as an operator, given the reserved forms of the next two lexemes. -/
def wordPrecedence (p : Precedence) (key second third : String) : Nat :=
  match key with
  | "OR" => p.disjunction
  | "AND" => p.conjunction
  | "XOR" => p.exclusiveOr
  | "AT" => if second = "TIME" ∧ third = "ZONE" then p.timeZone else 0
  | "NOT" => negatedPrecedence p second
  | "IS" => p.test
  | "OPERATOR" => p.range
  | "DIV" => p.product
  | "COLLATE" => p.collation
  | key => negatedPrecedence p key

/-- How tightly a symbol binds as an operator. -/
def symbolPrecedence (p : Precedence) (mark : String) : Nat :=
  match mark with
  | "=" | "<" | "<=" | "<>" | ">" | ">=" | "==" | "~" | "~*" | "!~" | "!~*" | "~~" | "~~*" | "!~~"
  | "!~~*" | "<=>" => p.comparison
  | "|" => p.bitOr
  | "^" => p.power
  | "#" | "<<" | ">>" => p.shift
  | "&" => p.bitAnd
  | "+" | "-" => p.sum
  | "*" | "/" | "//" | "%" => p.product
  | "||" => p.concatenation
  | "::" => p.cast
  | "[" => p.subscript
  | "!" | "&&" | "^@" => p.doubled
  | "->" | "->>" | "#>" | "#>>" | "@>" | "<@" | "#-" | "@?" | "@@" | "?" | "?&" | "?|" => p.special
  | _ => 0

/-- How tightly the operator ahead binds; zero if there is none. -/
def precedenceAt (d : Dialect) : List Lexeme → Nat
  | [] => 0
  | .symbol mark :: _ => symbolPrecedence (precedence d) mark
  | .operator _ :: _ => (precedence d).special
  | l :: rest =>
    wordPrecedence (precedence d) l.key ((rest.head?.map Lexeme.key).getD "")
      (((rest.drop 1).head?.map Lexeme.key).getD "")

end Joinery.Filter.Grammar
