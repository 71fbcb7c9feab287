import Joinery.Filter.Grammar.Operand

/-!
# Operators

`infixOperator d inner p left` reads an operator with what stands to its right, where `left` stands to its left
and `p` is how tightly the operator binds. Not every operator that binds can be read: some are kept
for certain dialects and refused in the others.
-/

namespace Joinery.Filter.Grammar

variable (d : Dialect) (inner : Inner)

/-! ## Operators between two expressions -/

/-- A symbol is an operator between two expressions. -/
def isBinary (mark : String) : Bool :=
  match mark with
  | "<=>" | "==" | "=" | "<>" | ">" | ">=" | "<" | "<=" | "+" | "-" | "*" | "%" | "||" | "|" | "^" | "&"
  | "/" | "~" | "~*" | "!~" | "!~*" | "~~" | "~~*" | "!~~" | "!~~*" | "->" | "->>" | "#>" | "#>>" | "@>"
  | "<@" | "#-" | "@?" | "@@" | "?" | "?&" | "?|" => true
  | "//" => d = .duckdb
  | "<<" | ">>" => d = .postgres || d = .duckdb
  | "#" | "&&" | "^@" => d = .postgres
  | _ => false

/-- The rest of an operator that is written as a name. -/
def namedOperator : Read Unit := do
  symbol "("
  let _ ← next
  let _ ← repeated (symbol? ".") next
  symbol ")"

/-- Takes an operator between two expressions if it comes next. -/
def binary? : Read (Option String) := do
  match ← peek with
  | some (.symbol mark) =>
    if isBinary d mark then do
      let _ ← next
      return some (if mark = "==" then "=" else mark)
    else return none
  | some (.operator mark) => do
    let _ ← next
    return some mark
  | _ =>
    match ← oneOf? ["AND", "OR", "XOR"] with
    | some key => return some key
    | none =>
      if d = .postgres then
        if ← word? "OPERATOR" then
          namedOperator
          return some "OPERATOR"
      return none

/-- The operators that can compare with any or with all of several values. -/
def comparisons : List String :=
  [">", "<", ">=", "<=", "=", "<>"]

/-- What stands to the right of an operator between two expressions. -/
def rightOf (operator : String) (p : Nat) (left : Tree) : Read Tree := do
  match ← oneOf? ["ANY", "ALL", "SOME"] with
  | none => return .form operator [left, ← inner.exprAbove p]
  | some key => do
    let isQuery := ["SELECT", "WITH"].contains (← keyAhead 1)
    let right ←
      if isQuery && (← peek) = some (.symbol "(") then inner.exprAbove p
      else inParens (inner.exprAbove p)
    if comparisons.contains operator then return .form (operator ++ " " ++ key) [left, right] else refuse

/-! ## Tests and other operators of words -/

/-- A test after its first word. -/
def test (left : Tree) : Read Tree := do
  if ← words? ["NULL"] then return .form "IS NULL" [left]
  else if ← words? ["NOT", "NULL"] then return .form "IS NOT NULL" [left]
  else if ← words? ["TRUE"] then return .form "IS TRUE" [left]
  else if ← words? ["NOT", "TRUE"] then return .form "IS NOT TRUE" [left]
  else if ← words? ["FALSE"] then return .form "IS FALSE" [left]
  else if ← words? ["NOT", "FALSE"] then return .form "IS NOT FALSE" [left]
  else if ← words? ["UNKNOWN"] then return .form "IS UNKNOWN" [left]
  else if ← words? ["NOT", "UNKNOWN"] then return .form "IS NOT UNKNOWN" [left]
  else if ← words? ["DISTINCT", "FROM"] then return .form "IS DISTINCT FROM" [left, ← inner.expr]
  else if ← words? ["NOT", "DISTINCT", "FROM"] then
    return .form "IS NOT DISTINCT FROM" [left, ← inner.expr]
  else refuse

/-- Membership after its word: among the items of a list, the rows of a statement, or the entries of a
list that is itself a value. -/
def membership (left : Tree) : Read Tree := do
  if ← word? "UNNEST" then return .form "IN" [left, ← inParens inner.expr]
  else
    inParens do
      if ["SELECT", "WITH"].contains (← peekKey) then return .form "IN" [left, ← inner.query]
      else return .form "IN" (left :: (← items d inner.expr))

/-- A range after its word. -/
def between (left : Tree) : Read Tree := do
  let low ← inner.exprAbove (precedence d).range
  word "AND"
  return .form "BETWEEN" [left, low, ← inner.exprAbove (precedence d).range]

/-- A pattern, and the character that takes away the meaning of the next one in it. -/
def pattern (head : String) (left : Tree) : Read Tree := do
  let e ← inner.exprAbove (precedence d).pattern
  let _ ← whenever (word? "ESCAPE") (textLiteral d)
  return .form head [left, e]

/-- The operators that can be negated. -/
def negatable (left : Tree) : Read Tree := do
  let _ ← word? "NOT"
  let isMatch := ["REGEXP", "RLIKE"].contains (← peekKey)
  if isMatch then do
    let _ ← word? "REGEXP"
    let _ ← word? "RLIKE"
    return .form "REGEXP" [left, ← inner.exprAbove (precedence d).pattern]
  else if ← word? "IN" then membership d inner left
  else if ← word? "BETWEEN" then between d inner left
  else if (← oneOf? ["LIKE", "ILIKE"]).isSome then do
    let _ ← word? "ANY"
    pattern d inner "LIKE" left
  else if ← words? ["SIMILAR", "TO"] then pattern d inner "SIMILAR TO" left
  else refuse

/-- An operator that is a word of its own. -/
def wordOperator (p : Nat) (left : Tree) : Read Tree := do
  match ← peekKey with
  | "IS" => do
    word "IS"
    test inner left
  | "AT" => do
    words ["AT", "TIME", "ZONE"]
    return .form "AT TIME ZONE" [left, ← inner.exprAbove p]
  | "NOT" | "IN" | "BETWEEN" | "LIKE" | "ILIKE" | "SIMILAR" | "REGEXP" | "RLIKE" => negatable d inner left
  | _ => refuse

/-! ## Subscripts -/

/-- An expression, if there is one before a symbol, and the symbol. -/
def exprUpTo (mark : String) : Read (Option Tree) := do
  if ← symbol? mark then return none
  else do
    let e ← inner.expr
    symbol mark
    return some e

/-- An index or a slice up to its closing bracket. The bounds and the stride of a slice can be left
out. -/
def subscript (left : Tree) : Read Tree := do
  let low ← if ← symbol? ":" then pure none else pure (some (← inner.expr))
  if ← symbol? "]" then return .formOf "[]" [some left, low]
  else do
    if low.isSome then symbol ":"
    if ← symbol? "]" then return .formOf "[]" [some left, low]
    else do
      let high ← inner.expr
      if ← symbol? "]" then return .formOf "[]" [some left, low, some high]
      else do
        symbol ":"
        return .formOf "[]" [some left, low, some high, ← exprUpTo inner "]"]

/-- Keys in brackets, the first of which is open. -/
def keys (left : Tree) : Read Tree := do
  let key := do
    let e ← inner.expr
    symbol "]"
    return e
  return .form "[]" (left :: (← key) :: (← repeated (symbol? "[") key))

/-! ## All operators -/

/-- An operator and what stands to its right. -/
def infixOperator (p : Nat) (left : Tree) : Read Tree := do
  match d, ← peekKey with
  | .mysql, "DIV" => do
    word "DIV"
    return .form "DIV" [left, ← inner.expr]
  | _, _ =>
    match ← binary? d with
    | some operator => rightOf inner operator p left
    | none =>
      if ← symbol? "::" then do
        let _ ← typeName d
        return .form "::" [left]
      else if ← symbol? "!" then
        if d = .postgres then return .form "!" [left] else refuse
      else if ← symbol? "[" then
        if d = .postgres ∨ d = .duckdb then subscript inner left else keys inner left
      else wordOperator d inner p left

end Joinery.Filter.Grammar
