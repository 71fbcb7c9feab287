import Joinery.Filter.Tree
import Joinery.Filter.Words

/-!
# Reading by a grammar

A `Read` takes lexemes off the front of a list and either gives a value or refuses. What was refused
has read nothing, so another rule can be tried in its place. Nesting too deep is a refusal that `attempt`
does not hide.
-/

namespace Joinery.Filter.Grammar

/-- Why lexemes do not follow a rule. -/
inductive Refusal
  | unexpected
  | tooDeep
  deriving DecidableEq

/-- Reads a value off the front of a list of lexemes. -/
abbrev Read := StateT (List Lexeme) (Except Refusal)

/-- No rule allows what comes next. -/
def refuse {α : Type} : Read α :=
  throw .unexpected

/-- What follows a rule, or nothing where it does not apply. -/
def attempt {α : Type} (rule : Read α) : Read (Option α) := fun ls =>
  match rule ls with
  | .ok (a, rest) => .ok (some a, rest)
  | .error .unexpected => .ok (none, ls)
  | .error .tooDeep => .error .tooDeep

/-- Runs a rule with a bound on its own recursion: each step of it takes a lexeme at least. -/
def withBound {α : Type} (rule : Nat → Read α) : Read α := fun ls =>
  rule (ls.length + 1) ls

/-- The lexeme that is so many places ahead. -/
def ahead (n : Nat) : Read (Option Lexeme) := do
  return (← get)[n]?

/-- The next lexeme, which stays where it is. -/
def peek : Read (Option Lexeme) :=
  ahead 0

/-- Takes the next lexeme, if there is one. -/
def next : Read (Option Lexeme) := do
  let ls ← get
  set (ls.drop 1)
  return ls.head?

/-- The reserved form of the lexeme so many places ahead; empty if it is no word. -/
def keyAhead (n : Nat) : Read String := do
  return ((← ahead n).map Lexeme.key).getD ""

/-- The reserved form of the next lexeme; empty if it is no word. -/
def peekKey : Read String :=
  keyAhead 0

/-- Takes the next lexeme if it passes a test. -/
def takeIf (test : Lexeme → Bool) : Read Bool := do
  match ← peek with
  | some l => if test l then do let _ ← next; return true else return false
  | none => return false

/-- Takes a symbol if it comes next. -/
def symbol? (mark : String) : Read Bool :=
  takeIf (·.isSymbol mark)

/-- Takes a reserved word if it comes next. -/
def word? (key : String) : Read Bool :=
  takeIf (·.key == key)

/-- Takes a sequence of reserved words if all of them come next. -/
def words? (keys : List String) : Read Bool := do
  let ls ← get
  if (ls.take keys.length).map Lexeme.key = keys then do
    set (ls.drop keys.length)
    return true
  else return false

/-- Takes one of some reserved words if it comes next. -/
def oneOf? (keys : List String) : Read (Option String) := do
  let key ← peekKey
  if keys.contains key then do let _ ← next; return some key else return none

/-- Refuses unless the condition is met. -/
def require (met : Read Bool) : Read Unit := do
  if ← met then return () else refuse

/-- Takes a symbol that has to come next. -/
def symbol (mark : String) : Read Unit :=
  require (symbol? mark)

/-- Takes a reserved word that has to come next. -/
def word (key : String) : Read Unit :=
  require (word? key)

/-- Takes reserved words that have to come next. -/
def words (keys : List String) : Read Unit :=
  require (words? keys)

/-- Takes one of some reserved words, which has to come next. -/
def oneOf (keys : List String) : Read String := do
  match ← oneOf? keys with
  | some key => return key
  | none => refuse

/-- What a rule gives if a condition is met. -/
def whenever {α : Type} (met : Read Bool) (rule : Read α) : Read (Option α) := do
  if ← met then return some (← rule) else return none

/-- What a rule gives between parentheses. -/
def inParens {α : Type} (rule : Read α) : Read α := do
  symbol "("
  let a ← rule
  symbol ")"
  return a

/-- Dialects that let a list end with a comma. -/
def endsWithComma (d : Dialect) : Bool :=
  d = .duckdb

/-- What follows means that a comma was the last of a list. -/
def isListEnd : Option Lexeme → Bool
  | none => true
  | some l =>
    [")", ";", "]", "\x7d"].any l.isSymbol || notColumnAliases.contains l.key

/-- A comma that has another item behind it. -/
def comma? (d : Dialect) : Read Bool := do
  if ← symbol? "," then return !(endsWithComma d && isListEnd (← peek)) else return false

/-- The items of a list, at most as many as given. -/
def itemsWithin {α : Type} (d : Dialect) (item : Read α) : Nat → Read (List α)
  | 0 => refuse
  | bound + 1 => do
    let a ← item
    if ← comma? d then return a :: (← itemsWithin d item bound) else return [a]

/-- One item or more with commas between them. -/
def items {α : Type} (d : Dialect) (item : Read α) : Read (List α) :=
  withBound (itemsWithin d item)

/-- Items up to a closing symbol, which may come at once and stays where it is. -/
def itemsUpTo {α : Type} (d : Dialect) (closing : String) (item : Read α) : Read (List α) := do
  let first ← peek
  let second ← ahead 1
  if first.any (·.isSymbol closing) then return []
  else if endsWithComma d && first.any (·.isSymbol ",") && second.any (·.isSymbol closing) then do
    symbol ","
    return []
  else items d item

/-- Repeats a rule as long as a condition is met, at most as often as given. -/
def repeatWithin {α : Type} (met : Read Bool) (rule : Read α) : Nat → Read (List α)
  | 0 => return []
  | bound + 1 => do
    if ← met then return (← rule) :: (← repeatWithin met rule bound) else return []

/-- Repeats a rule as long as a condition is met, which takes a lexeme each time. -/
def repeated {α : Type} (met : Read Bool) (rule : Read α) : Read (List α) :=
  withBound (repeatWithin met rule)

/-! ## Names and literals -/

/-- A name: a word, a name between delimiters, or a quoted text in its place. -/
def name : Read Name := do
  match ← next with
  | some (.word value quote) => return ⟨value, quote.isSome⟩
  | some (.text .single value) | some (.text .double value) => return ⟨value, true⟩
  | _ => refuse

/-- Names with points between them. -/
def dottedName : Read (List Name) := do
  return (← name) :: (← repeated (symbol? ".") name)

/-- Names between parentheses. -/
def nameList (d : Dialect) : Read (List Name) :=
  inParens (items d name)

/-- A text, for which a word without a meaning of its own may stand. -/
def textLiteral (d : Dialect) : Read Unit := do
  match ← next with
  | some (.word value none) =>
    if reservedWords.contains (Lexeme.word value none).key then refuse else return ()
  | some (.word _ (some _)) | some (.text .single _) | some (.text .double _)
  | some (.text .codePoints _) => return ()
  | some (.text .escaped _) => if d = .postgres then return () else refuse
  | _ => refuse

/-- A number without places after a point, in 64 bits. -/
def wholeNumber : Read Unit := do
  match ← next with
  | some (.number digits _) =>
    match digits.toList with
    | [] => refuse
    | cs =>
      if cs.all Char.isDigit ∧ cs.foldl (fun n c => 10 * n + (c.toNat - 48)) 0 < Nat.pow 2 64 then
        return ()
      else refuse
  | _ => refuse

/-- The reserved words that are values. -/
def isValueWord (d : Dialect) (key : String) : Bool :=
  key == "NULL" || (d ≠ .tsql && (key == "TRUE" || key == "FALSE"))

/-- A literal value or a placeholder. -/
def value (d : Dialect) : Read Tree := do
  match ← next with
  | some (.word v none) =>
    if isValueWord d (Lexeme.word v none).key then return .literal (.word v none) else refuse
  | some (.word v (some '"')) => return .literal (.text .double v)
  | some (.text .escaped v) => if d = .postgres then return .literal (.text .escaped v) else refuse
  | some (.symbol mark) =>
    if mark = ":" ∨ mark = "@" then do
      match ← next with
      | some (.word v _) => return .literal (.placeholder (mark ++ v))
      | some (.number v false) => return .literal (.placeholder (mark ++ v))
      | _ => refuse
    else refuse
  | some l =>
    match l with
    | .number .. | .text .. | .placeholder _ => return .literal l
    | _ => refuse
  | none => refuse

/-! ## What is read one level deeper -/

/-- The rules for whole expressions and statements inside a form, one level deeper than the form. An
expression is read up to the first operator that does not bind more tightly than the given one. -/
structure Deeper where
  exprAbove : Nat → Read Tree
  query : Read Tree

/-- The rules that a form is made of: those one level deeper, and an operand on the form's own
level. -/
structure Inner extends Deeper where
  operand : Read Tree

/-- A whole expression. -/
def Deeper.expr (deeper : Deeper) : Read Tree :=
  deeper.exprAbove 0

end Joinery.Filter.Grammar
