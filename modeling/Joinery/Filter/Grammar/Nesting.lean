import Joinery.Filter.Grammar.Statement

/-!
# Nesting

Expressions and statements to a limited depth. `level n` reads what is nested in itself at most `n`
deep, each level made of the one below it. A chain of operators does not nest, but what stands to the
right of each of them does.
-/

namespace Joinery.Filter.Grammar

/-- No level is left. -/
def tooDeep {α : Type} : Read α :=
  throw .tooDeep

/-- The operators behind an expression that bind more tightly than `p`, at most as many as given. -/
def operatorsAbove (d : Dialect) (inner : Inner) (p : Nat) (left : Tree) : Nat → Read Tree
  | 0 => return left
  | bound + 1 => do
    let tightness := precedenceAt d (← get)
    if p < tightness then
      operatorsAbove d inner p (← infixOperator d inner tightness left) bound
    else return left

/-- An expression up to the first operator that does not bind more tightly than `p`. -/
def exprOn (d : Dialect) (inner : Inner) (p : Nat) : Read Tree := do
  let first ← inner.operand
  withBound (operatorsAbove d inner p first)

/-- The rules for what nests at most so deep. -/
def level (d : Dialect) : Nat → Deeper
  | 0 => { exprAbove := fun _ => tooDeep, query := tooDeep }
  | depth + 1 =>
    let inner := Inner.above d (level d depth)
    { exprAbove := exprOn d inner, query := query d inner }

/-- How deep an expression may nest. -/
def maxDepth : Nat := 50

/-- A whole expression. -/
def expression (d : Dialect) : Read Tree :=
  (level d maxDepth).expr

end Joinery.Filter.Grammar
