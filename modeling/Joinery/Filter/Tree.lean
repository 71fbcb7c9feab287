import Joinery.Filter.Lexeme
import Joinery.Filter.Parser

/-!
# Expression trees

What a filter text says: references to columns, literals, and forms that combine expressions. The
parts of a form stand in the order in which a visitor is shown them, each form before its parts.
-/

namespace Joinery.Filter

/-- An expression, or a part of a statement inside one. -/
inductive Tree
  /-- A column by its name, or by longer and longer names of its table in front of that. -/
  | reference (names : List Name)
  | literal (value : Lexeme)
  | form (head : String) (parts : List Tree)

namespace Tree

/-- A form of those parts that are there. -/
def formOf (head : String) (parts : List (Option Tree)) : Tree :=
  form head (parts.filterMap id)

def mention : Tree → Mention
  | reference [name] => .identifier name
  | reference names => .compound names
  | literal _ | form _ _ => .other

section Visit

variable {σ ε : Type} (see : σ → Tree → Except ε σ)

mutual

/-- Shows a tree to a visitor, and then what stands inside it from the left to the right. -/
def visit : σ → Tree → Except ε σ
  | s, reference names => see s (reference names)
  | s, literal value => see s (literal value)
  | s, form head parts => do visitAll (← see s (form head parts)) parts

def visitAll : σ → List Tree → Except ε σ
  | s, [] => .ok s
  | s, t :: ts => do visitAll (← visit s t) ts

end

end Visit

end Tree

end Joinery.Filter
