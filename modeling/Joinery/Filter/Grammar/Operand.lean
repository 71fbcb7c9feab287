import Joinery.Filter.Grammar.Call
import Joinery.Filter.Grammar.Precedence

/-!
# Operands

What can stand before, between and after operators: literals, columns, calls, parentheses, and the
forms that begin with a word of their own. A word that begins none of these after all is read as a
name.
-/

namespace Joinery.Filter.Grammar

variable (d : Dialect) (inner : Inner)

/-! ## Forms that begin with a word -/

/-- The cases of a choice and, apart from them, what they give. -/
def cases : Nat → Read (List Tree × List Tree)
  | 0 => refuse
  | bound + 1 => do
    let condition ← inner.expr
    word "THEN"
    let result ← inner.expr
    if ← word? "WHEN" then do
      let (conditions, results) ← cases bound
      return (condition :: conditions, result :: results)
    else return ([condition], [result])

/-- A choice: what it depends on, then all conditions, then all results. -/
def choice : Read Tree := do
  let subject ←
    if ← word? "WHEN" then pure none
    else do
      let e ← inner.expr
      word "WHEN"
      pure (some e)
  let (conditions, results) ← withBound (cases inner)
  let otherwise ← whenever (word? "ELSE") inner.expr
  word "END"
  return .form "CASE" (subject.toList ++ conditions ++ results ++ otherwise.toList)

/-- A cast to a type, with a format if one is given. -/
def cast : Read Tree :=
  inParens do
    let e ← inner.expr
    word "AS"
    let _ ← typeName d
    if ← word? "FORMAT" then
      let _ ← value d
      if ← words? ["AT", "TIME", "ZONE"] then
        let _ ← value d
    return .form "CAST" [e]

/-- A conversion, to a type or to a set of characters. One dialect names the type first. -/
def convert : Read Tree :=
  inParens do
    if d = .tsql then
      let _ ← typeName d
      symbol ","
      let e ← inner.expr
      let styles ← whenever (symbol? ",") (items d inner.expr)
      return .form "CONVERT" (e :: styles.getD [])
    else do
      let e ← inner.expr
      if ← word? "USING" then
        let _ ← dottedName
      else
        symbol ","
        let _ ← typeName d
        if ← words? ["CHARACTER", "SET"] then
          let _ ← dottedName
      return .form "CONVERT" [e]

/-- Whether a statement has rows. -/
def existence : Read Tree := do
  return .form "EXISTS" [← inParens inner.query]

/-- A part of a time. -/
def extract : Read Tree :=
  inParens do
    let _ ← timeField d
    word "FROM"
    return .form "EXTRACT" [← inner.expr]

/-- Rounding to a unit of time or to some digits. -/
def rounding (head : String) : Read Tree :=
  inParens do
    let e ← inner.expr
    if ← word? "TO" then
      let _ ← timeField d
    else if ← symbol? "," then
      match ← value d with
      | .literal (.number ..) => pure ()
      | _ => refuse
    return .form head [e]

/-- Where one text stands in another, or a call of a function of that name. -/
def position (function : Name) : Read Tree := do
  let found ← attempt do
    inParens do
      let part ← inner.exprAbove (precedence d).range
      word "IN"
      return .form "POSITION" [part, ← inner.expr]
  match found with
  | some t => return t
  | none => call d inner [function]

/-- A part of a text. -/
def substring : Read Tree :=
  inParens do
    let e ← inner.expr
    let start ←
      if ← symbol? "," then do pure (some (← inner.expr))
      else whenever (word? "FROM") inner.expr
    let size ←
      if ← word? "FOR" then do pure (some (← inner.expr))
      else whenever (symbol? ",") inner.expr
    return .formOf "SUBSTRING" [e, start, size]

/-- A text with a part of it replaced. -/
def overlay : Read Tree :=
  inParens do
    let e ← inner.expr
    word "PLACING"
    let what ← inner.expr
    word "FROM"
    let start ← inner.expr
    let size ← whenever (word? "FOR") inner.expr
    return .formOf "OVERLAY" [e, what, start, size]

/-- A text without what stands at its ends; the text comes before what is taken off. -/
def trimmed : Read Tree :=
  inParens do
    let _ ← oneOf? ["BOTH", "LEADING", "TRAILING"]
    let e ← inner.expr
    if ← word? "FROM" then return .form "TRIM" [← inner.expr, e]
    else return .form "TRIM" [e]

/-- A list of values after its opening bracket. -/
def arrayItems : Read Tree := do
  let es ← itemsUpTo d "]" inner.expr
  symbol "]"
  return .form "ARRAY" es

/-- A negation. -/
def negation : Read Tree := do
  if ← word? "EXISTS" then return .form "NOT" [← existence inner]
  else return .form "NOT" [← inner.exprAbove (precedence d).negation]

/-- A search for words in columns. These are named without their table and count as no reference. -/
def wordSearch : Read Tree := do
  let _ ← nameList d
  word "AGAINST"
  inParens do
    let v ← value d
    if ← words? ["IN", "NATURAL", "LANGUAGE", "MODE"] then
      let _ ← words? ["WITH", "QUERY", "EXPANSION"]
    else if ← words? ["IN", "BOOLEAN", "MODE"] then pure ()
    else
      let _ ← words? ["WITH", "QUERY", "EXPANSION"]
    return .form "MATCH" [v]

/-- Pairs of a key and a value up to a closing brace. -/
def pairs (key : Read (Option Tree)) : Read Tree := do
  symbol "\x7b"
  let entries ← itemsUpTo d "\x7d" do
    let k ← key
    symbol ":"
    return .formOf ":" [k, some (← inner.expr)]
  symbol "\x7d"
  return .form "MAP" entries

/-- The current time, or the call of a function of that name. -/
def clock (function : Name) : Read Tree := do
  if ← symbol? "(" then return .form (callHead [function]) (← arguments d inner).1
  else return .form (callHead [function]) []

/-- The form that a word begins, if it begins one before the lexeme that comes next. -/
def wordForm? (first : Lexeme) (function : Name) (next : Option Lexeme) : Option (Read Tree) :=
  let opens := fun mark => next.any (·.isSymbol mark)
  match first.key with
  | "NULL" => some (pure (.literal first))
  | "TRUE" | "FALSE" => if d = .tsql then none else some (pure (.literal first))
  | "CURRENT_CATALOG" | "CURRENT_USER" | "SESSION_USER" | "USER" =>
    if d = .postgres then some (pure (.form (callHead [function]) [])) else none
  | "CURRENT_TIMESTAMP" | "CURRENT_TIME" | "CURRENT_DATE" | "LOCALTIME" | "LOCALTIMESTAMP" =>
    some (clock d inner function)
  | "CASE" => some (choice inner)
  | "CONVERT" => some (convert d inner)
  | "TRY_CONVERT" => if d = .tsql then some (convert d inner) else none
  | "CAST" | "TRY_CAST" | "SAFE_CAST" => some (cast d inner)
  | "EXISTS" => some (existence inner)
  | "EXTRACT" => some (extract d inner)
  | "CEIL" => some (rounding d inner "CEIL")
  | "FLOOR" => some (rounding d inner "FLOOR")
  | "POSITION" => if opens "(" then some (position d inner function) else none
  | "SUBSTRING" => some (substring inner)
  | "OVERLAY" => some (overlay inner)
  | "TRIM" => some (trimmed inner)
  | "INTERVAL" => some (interval d inner)
  | "ARRAY" =>
    if opens "[" then some do
      symbol "["
      arrayItems d inner
    else if opens "(" then some do return .form "ARRAY" [← inParens inner.query]
    else none
  | "NOT" => some (negation d inner)
  | "MATCH" => if d = .mysql then some (wordSearch d) else none
  | "MAP" =>
    if d = .duckdb ∧ opens "\x7b" then some (pairs d inner do return some (← inner.expr)) else none
  | _ => none

/-! ## Names and calls -/

/-- The names after the first one, and whether a star ends them. -/
def moreNames : Nat → Read (List Name × Bool)
  | 0 => refuse
  | bound + 1 => do
    if ← symbol? "." then
      match ← next with
      | some (.word value quote) => do
        let (names, star) ← moreNames bound
        return (⟨value, quote.isSome⟩ :: names, star)
      | some (.text .single value) => do
        let (names, star) ← moreNames bound
        return (⟨value, true⟩ :: names, star)
      | some (.symbol "*") => if d = .postgres then return ([], true) else refuse
      | _ => refuse
    else return ([], false)

/-- A column, a call of a function, or a text with the name of its characters in front. -/
def named (first : Name) : Read Tree := do
  match ← peek with
  | some (.symbol "(") | some (.symbol ".") => do
    let (names, isStar) ← withBound (moreNames d)
    let names := first :: names
    if isStar then return star
    else if (← peek) = some (.symbol "(") then
      if d = .tsql ∧ (← ahead 1) = some (.symbol "+") ∧ (← ahead 2) = some (.symbol ")") then do
        modify (·.drop 3)
        return .form "(+)" [.reference names]
      else call d inner names
    else return .reference names
  | some (.text .single _) | some (.text .double _) | some (.text .hex _) =>
    if first.text.toList.head? = some '_' then do
      let _ ← next
      return .form first.text []
    else return .reference [first]
  | _ => return .reference [first]

/-! ## Operands -/

/-- Calls of methods on what stands before; one dialect has them. -/
def methods (e : Tree) : Read Tree := do
  if d = .tsql then
    let chain ← attempt do
      let calls ← repeated (symbol? ".") do
        match ← next with
        | some (.word value quote) => call d inner [⟨value, quote.isSome⟩]
        | _ => refuse
      if calls.isEmpty then refuse else return calls
    match chain with
    | some calls => return .form "." (e :: calls)
    | none => return e
  else return e

/-- What can stand behind an operand: calls of methods, then the order of its texts. -/
def suffixed (e : Tree) : Read Tree := do
  let e ← methods d inner e
  if ← word? "COLLATE" then do
    let _ ← dottedName
    return .form "COLLATE" [e]
  else return e

/-- What a form gives, or, if it cannot be read, the word it begins with read as a name. A name that was
read in place of a form has no suffix. -/
def formOrName (first : Lexeme) (function : Name) (rule : Read Tree) : Read Tree := fun ls =>
  match rule ls with
  | .ok (e, rest) => suffixed d inner e rest
  | .error refusal =>
    if neverNames.contains first.key then .error refusal
    else
      match named d inner function ls with
      | .ok found => .ok found
      | .error _ => .error refusal

/-- An operand that begins with a word. -/
def wordOperand (first : Lexeme) (function : Name) : Read Tree := do
  match wordForm? d inner first function (← peek) with
  | none => suffixed d inner (← named d inner function)
  | some rule => formOrName d inner first function rule

/-- What stands between parentheses: a statement, an expression, or several. -/
def parenthesized : Read Tree := do
  let e ←
    if ["SELECT", "WITH"].contains (← peekKey) then do pure (.form "SUBQUERY" [← inner.query])
    else do pure (.form "()" (← items d inner.expr))
  symbol ")"
  if ← symbol? "." then
    match ← next with
    | some (.word ..) => return .form "." [e]
    | _ => refuse
  else return e

/-- An operand that begins with a symbol. -/
def symbolOperand (mark : String) : Read Tree := do
  match mark with
  | "-" | "+" => return .form mark [← inner.exprAbove (precedence d).product]
  | "!!" | "|/" | "||/" | "~" =>
    if d = .postgres then return .form mark [← inner.exprAbove (precedence d).sum] else refuse
  | "@" =>
    if d = .postgres then return .form mark [← inner.exprAbove (precedence d).sum]
    else placeholder
  | ":" => placeholder
  | "(" => parenthesized d inner
  | "[" => arrayItems d inner
  | _ => refuse
where
  placeholder : Read Tree := do
    match ← next with
    | some (.word v _) => return .literal (.placeholder (mark ++ v))
    | some (.number v false) => return .literal (.placeholder (mark ++ v))
    | _ => refuse

/-- A type in front of a text, which together make a literal, or an interval. -/
def typedLiteral : Read Tree := do
  match ← typeName d with
  | .known => do
    let l ← peek
    textLiteral d
    return .form "TYPED" ((l.map Tree.literal).toList)
  | .interval => interval d inner
  | .own => refuse

/-- An operand. -/
def operandStep : Read Tree := do
  match ← attempt (typedLiteral d inner) with
  | some e => return e
  | none => do
    let start ← get
    match ← next with
    | some (.word value quote) =>
      wordOperand d inner (.word value quote) ⟨value, quote.isSome⟩
    | some (.symbol "\x7b") =>
      if d = .duckdb then do
        set start
        suffixed d inner (← pairs d inner do
          let _ ← name
          return none)
      else refuse
    | some (.symbol mark) => do suffixed d inner (← symbolOperand d inner mark)
    | some (.text .escaped v) =>
      if d = .postgres then suffixed d inner (.literal (.text .escaped v)) else refuse
    | some l =>
      match l with
      | .number .. | .text .. | .placeholder _ => suffixed d inner (.literal l)
      | _ => refuse
    | none => refuse

/-- An operand, in front of which no more words for an interval stand than given. -/
def operandWithin (deeper : Deeper) : Nat → Read Tree
  | 0 => refuse
  | bound + 1 => operandStep d { deeper with operand := operandWithin deeper bound }

/-- The rules that a form on the level above the given one is made of. -/
def Inner.above (deeper : Deeper) : Inner :=
  { deeper with operand := withBound (operandWithin d deeper) }

end Joinery.Filter.Grammar
