import Joinery.Sql.Token

/-!
# Expressions of a statement

Columns, equations, conjunctions, aggregates over a column, and text that is copied as it is.
`Expr.conj` keeps conjunctions flat.
-/

namespace Joinery.Sql

open Text

/-- How the values of a group become one value. -/
inductive Aggregate
  | sum
  | count
  | avg
  | min
  | max
  | countDistinct
  deriving DecidableEq

namespace Aggregate

/-- The function that is called. -/
def function : Aggregate → String
  | sum => "SUM"
  | count | countDistinct => "COUNT"
  | avg => "AVG"
  | min => "MIN"
  | max => "MAX"

/-- The aggregate's name in requests and in the names of its results. -/
def name : Aggregate → String
  | sum => "sum"
  | count => "count"
  | avg => "avg"
  | min => "min"
  | max => "max"
  | countDistinct => "count_distinct"

/-- Reads an aggregate's name in any case and between blanks; an unknown name is given back trimmed
and in lower case. -/
def ofName (name : String) : Except String Aggregate :=
  match asciiLowercase (trim name) with
  | "sum" => .ok sum
  | "count" => .ok count
  | "avg" | "average" => .ok avg
  | "min" => .ok min
  | "max" => .ok max
  | "count_distinct" | "distinct_count" => .ok countDistinct
  | other => .error other

end Aggregate

/-- An expression of a statement. -/
inductive Expr
  | column (table : Option String) (name : String)
  | eq (left right : Expr)
  | and (parts : List Expr)
  | aggregate (op : Aggregate) (arg : Expr)
  /-- Text that was checked before and is copied as it is. -/
  | verbatim (text : String)

namespace Expr

/-- The column of a table. -/
def ofTable (table name : String) : Expr :=
  column (some table) name

mutual

/-- Equality of expressions is decided part by part. -/
def decEq : (a b : Expr) → Decidable (a = b)
  | column t n, column t' n' =>
    if h : t = t' ∧ n = n' then isTrue (by rw [h.1, h.2])
    else isFalse fun e => h (by cases e; exact ⟨rfl, rfl⟩)
  | eq l r, eq l' r' =>
    match decEq l l', decEq r r' with
    | isTrue hl, isTrue hr => isTrue (by rw [hl, hr])
    | isFalse hl, _ => isFalse fun e => hl (by cases e; rfl)
    | _, isFalse hr => isFalse fun e => hr (by cases e; rfl)
  | and ps, and ps' =>
    match decEqList ps ps' with
    | isTrue h => isTrue (by rw [h])
    | isFalse h => isFalse fun e => h (by cases e; rfl)
  | aggregate op a, aggregate op' a' =>
    match decEq a a' with
    | isTrue ha =>
      if ho : op = op' then isTrue (by rw [ho, ha]) else isFalse fun e => ho (by cases e; rfl)
    | isFalse ha => isFalse fun e => ha (by cases e; rfl)
  | verbatim t, verbatim t' =>
    if h : t = t' then isTrue (by rw [h]) else isFalse fun e => h (by cases e; rfl)
  | column .., eq .. | column .., and _ | column .., aggregate .. | column .., verbatim _
  | eq .., column .. | eq .., and _ | eq .., aggregate .. | eq .., verbatim _
  | and _, column .. | and _, eq .. | and _, aggregate .. | and _, verbatim _
  | aggregate .., column .. | aggregate .., eq .. | aggregate .., and _ | aggregate .., verbatim _
  | verbatim _, column .. | verbatim _, eq .. | verbatim _, and _ | verbatim _, aggregate .. =>
    isFalse nofun

def decEqList : (as bs : List Expr) → Decidable (as = bs)
  | [], [] => isTrue rfl
  | [], _ :: _ | _ :: _, [] => isFalse nofun
  | a :: as, b :: bs =>
    match decEq a b, decEqList as bs with
    | isTrue h, isTrue hs => isTrue (by rw [h, hs])
    | isFalse h, _ => isFalse fun e => h (by cases e; rfl)
    | _, isFalse hs => isFalse fun e => hs (by cases e; rfl)

end

instance : DecidableEq Expr :=
  decEq

mutual

/-- The expression aggregates rows. -/
def isAggregate : Expr → Bool
  | column .. | verbatim _ => false
  | eq left right => left.isAggregate || right.isAggregate
  | and parts => anyAggregate parts
  | aggregate .. => true

def anyAggregate : List Expr → Bool
  | [] => false
  | e :: es => e.isAggregate || anyAggregate es

end

mutual

/-- The tokens of an expression. -/
def tokens : Expr → List Token
  | column none name => [.ident name]
  | column (some table) name => [.ident table, .punct '.', .ident name]
  | eq left right => left.tokens ++ [.space, .punct '=', .space] ++ right.tokens
  | and parts => conjunctionTokens parts
  | aggregate op arg =>
    [.call op.function, .punct '('] ++
      (if op = .countDistinct then [.keyword .distinct, .space] else []) ++
      arg.tokens ++ [.punct ')']
  | verbatim text => [.verbatim text]

/-- The tokens of expressions joined by the word for a conjunction. -/
def conjunctionTokens : List Expr → List Token
  | [] => []
  | [e] => e.tokens
  | e :: f :: es => e.tokens ++ Token.padded .and ++ conjunctionTokens (f :: es)

end

/-- The conjuncts of an expression. -/
def conjuncts : Expr → List Expr
  | and parts => parts
  | e => [e]

/-- The conjunction of two expressions, flat where they are conjunctions themselves. -/
def conj (a b : Expr) : Expr :=
  and (a.conjuncts ++ b.conjuncts)

/-- The conjunction of expressions, if there are any. -/
def conjAll : List Expr → Option Expr
  | [] => none
  | e :: es => some (es.foldl conj e)

end Expr

end Joinery.Sql
