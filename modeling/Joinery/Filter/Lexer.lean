import Joinery.Filter.Lexeme
import Joinery.Text.Alphabetic

/-!
# Reading lexemes

`lexemes` cuts a filter text into lexemes as a dialect does and drops blanks and comments. It fails
only where a quoted text, a delimited name or a comment is not closed, or an escape in a text stands
for no character.
-/

namespace Joinery.Filter

open Text

/-- What was read at the front of a text. -/
inductive Scan
  | skip (rest : List Char)
  | found (lexeme : Lexeme) (rest : List Char)
  | broken

namespace Scan

/-- A lexeme made of characters that were read, unless they could not be read. -/
def ofRead (make : String → Lexeme) : Option (List Char × List Char) → Scan
  | some (value, rest) => found (make (String.ofList value)) rest
  | none => broken

end Scan

/-! ## Names -/

/-- The character can begin a word. -/
def startsName (d : Dialect) (c : Char) : Bool :=
  isAlphabetic c || c == '_' ||
    match d with
    | .postgres | .duckdb => false
    | .mysql => c == '$' || c == '@' || (0x80 ≤ c.toNat && c.toNat ≤ 0xFFFF)
    | .tsql => c == '#' || c == '@'

/-- The character can go on with a word. -/
def continuesName (d : Dialect) (c : Char) : Bool :=
  startsName d c || c.isDigit || c == '$'

/-- The character opens a delimited name. -/
def opensName (d : Dialect) (c : Char) : Bool :=
  match d with
  | .postgres => c == '"'
  | .duckdb => c == '"' || c == '\x60'
  | .mysql => c == '\x60'
  | .tsql => c == '"' || c == '['

/-- The word that begins with some characters already read. -/
def scanWord (d : Dialect) (start rest : List Char) : Scan :=
  .found (.word (String.ofList (start ++ rest.takeWhile (continuesName d))) none)
    (rest.dropWhile (continuesName d))

/-! ## Quoted texts -/

/-- Puts a character in front of what was read. -/
def consRead (c : Char) (read : Option (List Char × List Char)) : Option (List Char × List Char) :=
  read.map fun (value, rest) => (c :: value, rest)

/-- Reads up to a closing delimiter. Two of them in a row stand for one that does not close. -/
def readDelimited (closing : Char) : List Char → Option (List Char × List Char)
  | [] => none
  | [c] => if c = closing then some ([], []) else none
  | c :: c' :: rest =>
    if c = closing then
      if c' = closing then consRead closing (readDelimited closing rest) else some ([], c' :: rest)
    else consRead c (readDelimited closing (c' :: rest))

/-- The character that a backslash and a letter stand for. -/
def backslashed (c : Char) : Char :=
  match c with
  | '0' => '\x00'
  | 'a' => '\x07'
  | 'b' => '\x08'
  | 'f' => '\x0c'
  | 'n' => '\n'
  | 'r' => '\r'
  | 't' => '\t'
  | 'Z' => '\x1a'
  | c => c

/-- Reads up to a closing quote as `readDelimited` does, where a backslash keeps the next character
from closing the text. -/
def readBackslashed (closing : Char) : List Char → Option (List Char × List Char)
  | [] => none
  | [c] => if c = closing then some ([], []) else none
  | c :: c' :: rest =>
    if c = closing then
      if c' = closing then consRead closing (readBackslashed closing rest)
      else some ([], c' :: rest)
    else if c = '\\' then consRead (backslashed c') (readBackslashed closing rest)
    else consRead c (readBackslashed closing (c' :: rest))

/-- Reads up to a closing quote, with or without backslash escapes. -/
def readText (backslash : Bool) (closing : Char) (cs : List Char) : Option (List Char × List Char) :=
  if backslash then readBackslashed closing cs else readDelimited closing cs

/-- The value of a digit in a base of at most 16. -/
def digitValue? (base : Nat) (c : Char) : Option Nat :=
  let value :=
    if '0' ≤ c ∧ c ≤ '9' then some (c.toNat - 48)
    else if 'a' ≤ c ∧ c ≤ 'f' then some (c.toNat - 87)
    else if 'A' ≤ c ∧ c ≤ 'F' then some (c.toNat - 55)
    else none
  value.filter (· < base)

/-- The number that some digits stand for; there has to be one at least. -/
def numberValue? (base : Nat) : List Char → Option Nat
  | [] => none
  | cs => cs.foldlM (fun n c => (digitValue? base c).map (base * n + ·)) 0

/-- The character with a code point, if there is one. -/
def charOf? (n : Nat) : Option Char :=
  if n.isValidChar then some (Char.ofNat n) else none

/-- Exactly so many characters and the rest. -/
def takeExactly? (n : Nat) (cs : List Char) : Option (List Char × List Char) :=
  if n ≤ cs.length then some (cs.splitAt n) else none

/-- The code point in the given number of hexadecimal digits. -/
def readCodePoint (digits : Nat) (cs : List Char) : Option (Char × List Char) := do
  let (code, rest) ← takeExactly? digits cs
  return (← charOf? (← numberValue? 16 code), rest)

/-- A plus sign may stand in front of the digits of an escape. -/
def dropPlus : List Char → List Char
  | '+' :: rest => rest
  | cs => cs

/-- A character of a single byte: what remains of a number after division by 256, if it is ASCII. -/
def byteChar? (n : Nat) : Option Char :=
  if n % 256 < 128 then some (Char.ofNat (n % 256)) else none

/-- The first digits, at most so many, and the rest. -/
def takeDigits (base limit : Nat) (cs : List Char) : List Char × List Char :=
  let digits := (cs.take limit).takeWhile fun c => (digitValue? base c).isSome
  (digits, cs.drop digits.length)

/-- What a backslash and the characters after it stand for in an escaped text. -/
def readEscape (c : Char) (rest : List Char) : Option (Char × List Char) :=
  match c with
  | 'b' => some ('\x08', rest)
  | 'f' => some ('\x0c', rest)
  | 'n' => some ('\n', rest)
  | 'r' => some ('\r', rest)
  | 't' => some ('\t', rest)
  | 'u' => unicode 4
  | 'U' => unicode 8
  | 'x' =>
    match takeDigits 16 2 rest with
    | ([], rest) => some ('x', rest)
    | (digits, rest) => do return (← byteChar? (← numberValue? 16 digits), rest)
  | c =>
    if (digitValue? 8 c).isSome then do
      let (digits, rest) := takeDigits 8 2 rest
      return (← byteChar? (← numberValue? 8 (c :: digits)), rest)
    else some (c, rest)
where
  unicode (digits : Nat) : Option (Char × List Char) := do
    let (code, rest) ← takeExactly? digits rest
    return (← charOf? (← numberValue? 16 (dropPlus code)), rest)

/-- Reads an escaped text up to its closing quote; no escape may stand for the character zero. -/
def readEscaped : (steps : Nat) → List Char → Option (List Char × List Char)
  | 0, _ | _, [] => none
  | steps + 1, '\'' :: '\'' :: rest => consRead '\'' (readEscaped steps rest)
  | _ + 1, '\'' :: rest => some ([], rest)
  | _ + 1, ['\\'] => none
  | steps + 1, '\\' :: c :: rest => do
    let (c, rest) ← readEscape c rest
    if c = '\x00' then none else consRead c (readEscaped steps rest)
  | steps + 1, c :: rest => consRead c (readEscaped steps rest)

/-- Reads a text with code points up to its closing quote. -/
def readCodePoints : (steps : Nat) → List Char → Option (List Char × List Char)
  | 0, _ | _, [] => none
  | steps + 1, '\'' :: '\'' :: rest => consRead '\'' (readCodePoints steps rest)
  | _ + 1, '\'' :: rest => some ([], rest)
  | steps + 1, '\\' :: '\\' :: rest => consRead '\\' (readCodePoints steps rest)
  | steps + 1, '\\' :: '+' :: rest => do
    let (c, rest) ← readCodePoint 6 rest
    consRead c (readCodePoints steps rest)
  | steps + 1, '\\' :: rest => do
    let (c, rest) ← readCodePoint 4 rest
    consRead c (readCodePoints steps rest)
  | steps + 1, c :: rest => consRead c (readCodePoints steps rest)

/-- Reads up to the tag between two dollar signs, which stays at the end of what was read. `expected`
is the part of the tag still to come after a dollar sign that may begin the end. -/
def readDollar (tag : List Char) : (expected : Option (List Char)) → List Char →
    Option (List Char × List Char)
  | _, [] => none
  | none, c :: rest => consRead c (readDollar tag (if c = '$' then some tag else none) rest)
  | some [], c :: rest => if c = '$' then some ([], rest) else consRead c (readDollar tag none rest)
  | some (t :: ts), c :: rest =>
    consRead c (readDollar tag (if c = t then some ts else none) rest)

/-- A text between dollar signs, or a placeholder. -/
def scanDollar (rest : List Char) : Scan :=
  let isTag := fun c => isAlphanumeric c || c == '_'
  let tag := rest.takeWhile isTag
  match rest.dropWhile isTag with
  | '$' :: rest =>
    match readDollar tag none rest with
    | some (value, rest) =>
      let value := value.take (value.length - (tag.length + 1))
      .found (.text (.dollar (String.ofList tag)) (String.ofList value)) rest
    | none => .broken
  | rest => .found (.placeholder (String.ofList ('$' :: tag))) rest

/-- A text that begins with a letter and a quote, or the word that begins with the letter. -/
def scanMarked? (d : Dialect) (c : Char) (rest : List Char) : Option Scan :=
  match c.toUpper, rest with
  | 'B', '\'' :: text =>
    if d = .postgres ∨ d = .mysql then
      some (.ofRead (.text .bytes) (readDelimited '\'' text))
    else none
  | 'B', '"' :: text =>
    if d = .postgres ∨ d = .mysql then
      some (.ofRead (.text .doubleBytes) (readDelimited '"' text))
    else none
  | 'N', '\'' :: text =>
    some (.ofRead (.text .national) (readText (d = .mysql) '\'' text))
  | 'E', '\'' :: text => some (.ofRead (.text .escaped) (readEscaped (text.length + 1) text))
  | 'U', '&' :: '\'' :: text =>
    if d = .postgres then
      some (.ofRead (.text .codePoints) (readCodePoints (text.length + 1) text))
    else none
  | 'X', '\'' :: text => some (.ofRead (.text .hex) (readBackslashed '\'' text))
  | _, _ => none

/-- A quoted text or a delimited name. -/
def scanQuoted? (d : Dialect) (c : Char) (rest : List Char) : Option Scan :=
  if c = '\'' then some (.ofRead (.text .single) (readText (d = .mysql) '\'' rest))
  else if opensName d c then
    some (.ofRead (.word · (some c)) (readDelimited (closingOf c) rest))
  else if c = '"' then some (.ofRead (.text .double) (readText (d = .mysql) '"' rest))
  else none

/-! ## Numbers -/

/-- The exponent at the front of a text, if there is one: the letter, a sign if any, and digits. -/
def exponent (cs : List Char) : List Char :=
  let sized (mark rest : List Char) :=
    match rest.takeWhile Char.isDigit with
    | [] => []
    | digits => mark ++ digits
  match cs with
  | e :: '+' :: rest => if isMark e then sized [e, '+'] rest else []
  | e :: '-' :: rest => if isMark e then sized [e, '-'] rest else []
  | e :: rest => if isMark e then sized [e] rest else []
  | [] => []
where
  isMark (c : Char) : Bool := c == 'e' || c == 'E'

/-- A number that is read to its end but for a letter behind it. In one dialect a word may begin with
digits, unless the letter of an exponent follows them. -/
def scanNumberEnd (d : Dialect) (digits rest : List Char) : Scan :=
  let power := exponent rest
  let marked := match rest with
    | e :: _ => exponent.isMark e
    | [] => false
  if d = .mysql ∧ !marked ∧ rest.takeWhile (continuesName d) ≠ [] then scanWord d digits rest
  else
    let number := String.ofList (digits ++ power)
    match rest.drop power.length with
    | 'L' :: rest => .found (.number number true) rest
    | rest => .found (.number number false) rest

/-- A number, or the point between two names. -/
def scanNumber? (d : Dialect) (c : Char) (rest : List Char) : Option Scan :=
  if c.isDigit ∨ c = '.' then
    let whole := (c :: rest).takeWhile Char.isDigit
    match (c :: rest).dropWhile Char.isDigit with
    | 'x' :: rest =>
      if whole = ['0'] then
        let isHex := fun c => (digitValue? 16 c).isSome
        some (.found (.text .hex (String.ofList (rest.takeWhile isHex))) (rest.dropWhile isHex))
      else some (scanNumberEnd d whole ('x' :: rest))
    | '.' :: rest =>
      match whole, rest.takeWhile Char.isDigit with
      | [], [] => some (.found (.symbol ".") rest)
      | _, places =>
        some (scanNumberEnd d (whole ++ '.' :: places) (rest.dropWhile Char.isDigit))
    | rest => some (scanNumberEnd d whole rest)
  else none

/-! ## Comments -/

/-- What follows a comment that goes on to the end of the line. -/
def afterLine (cs : List Char) : List Char :=
  (cs.dropWhile (· ≠ '\n')).drop 1

/-- What follows a comment inside which `nested` others are open; `last` is the character before. -/
def afterComment : (nested : Nat) → (last : Char) → List Char → Option (List Char)
  | _, _, [] => none
  | nested, last, c :: rest =>
    if last = '/' ∧ c = '*' then afterComment (nested + 1) c rest
    else if last = '*' ∧ c = '/' then
      match nested with
      | 0 => some rest
      | nested + 1 => afterComment nested c rest
    else afterComment nested c rest

/-- A comment. -/
def scanComment? (d : Dialect) (c : Char) (rest : List Char) : Option Scan :=
  match c, rest with
  | '-', '-' :: rest => some (.skip (afterLine rest))
  | '#', rest => if d = .mysql then some (.skip (afterLine rest)) else none
  | '/', '*' :: rest =>
    some (match afterComment 0 ' ' rest with
      | some rest => .skip rest
      | none => .broken)
  | _, _ => none

/-! ## Symbols -/

/-- The symbols that further operator characters can extend, longer ones first. -/
def openSymbols : List String :=
  ["->>", "->", "-", "%", "|/", "||/", "||", "|", "<=>", "<=", "<>", "<<", "<@", "<", ">=", ">>", ">",
   "&&", "&", "~*", "~~*", "~~", "~", "#-", "#>>", "#>", "#"]

/-- The symbols that nothing extends, longer ones first. -/
def closedSymbols : List String :=
  ["(", ")", ",", ";", "\\", "[", "]", "\x7b", "\x7d", "+", "*", "/", "=>", "==", "=", "!=", "!!",
   "!~~*", "!~~", "!~*", "!~", "!", "::", ":=", ":", "^@", "^", "@>", "@?", "@@", "@"]

/-- The symbol at the front of a text that is in a list, and the rest. -/
def symbolOf? (symbols : List String) (cs : List Char) : Option (String × List Char) :=
  symbols.findSome? fun s => (s.toList.isPrefixOf? cs).map fun rest => (s, rest)

/-- The characters of operators that a dialect lets its users define. -/
def extendsOperator (d : Dialect) (c : Char) : Bool :=
  d = .postgres &&
    ['+', '-', '*', '/', '<', '>', '=', '~', '!', '@', '#', '%', '^', '&', '|', '\x60', '?'].contains c

/-- One spelling stands for each symbol. -/
def spelling (mark : String) : String :=
  if mark = "!=" then "<>" else mark

/-- A symbol, or an operator that begins with one. -/
def scanSymbol? (d : Dialect) (cs : List Char) : Option Scan :=
  match symbolOf? (if d = .duckdb then "//" :: closedSymbols else closedSymbols) cs with
  | some (mark, rest) => some (.found (.symbol (spelling mark)) rest)
  | none =>
    (symbolOf? openSymbols cs).map fun (mark, rest) =>
      match rest.takeWhile (extendsOperator d) with
      | [] => .found (.symbol mark) rest
      | more =>
        .found (.operator (mark ++ String.ofList more)) (rest.dropWhile (extendsOperator d))

/-- A word that begins with a number sign or an at sign. Whatever character follows the sign belongs
to the word, unless it makes a symbol with the sign. -/
def scanSigned? (d : Dialect) (c : Char) (rest : List Char) : Option Scan :=
  if startsName d c then
    match c, rest with
    | '#', next :: rest =>
      if ['-', '>', ' '].contains next then none else some (scanWord d ['#', next] rest)
    | '@', '@' :: next :: rest =>
      if next = ' ' then none else some (scanWord d ['@', '@', next] rest)
    | '@', next :: rest =>
      if ['>', '?', ' '].contains next then none
      else if next = '@' ∧ rest = [] then none
      else some (scanWord d ['@', next] rest)
    | _, _ => none
  else none

/-- A question mark: the beginning of an operator in one dialect, where it takes one more character
with it, and a placeholder in the others. -/
def scanQuestion (d : Dialect) (rest : List Char) : Scan :=
  if d = .postgres then
    match rest with
    | '|' :: rest => .found (.symbol "?|") rest
    | '&' :: rest => .found (.symbol "?&") rest
    | rest => .found (.symbol "?") (rest.drop 1)
  else
    .found (.placeholder (String.ofList ('?' :: rest.takeWhile isNumeric))) (rest.dropWhile isNumeric)

/-! ## Lexemes -/

/-- Reads what stands at the front of a text. -/
def scan (d : Dialect) (c : Char) (rest : List Char) : Scan :=
  if [' ', '\t', '\n', '\r'].contains c then .skip rest
  else
    let found :=
      scanMarked? d c rest <|> scanQuoted? d c rest <|> scanNumber? d c rest <|>
        scanComment? d c rest <|> scanSigned? d c rest <|> scanSymbol? d (c :: rest)
    match found with
    | some found => found
    | none =>
      if c = '?' then scanQuestion d rest
      else if startsName d c then scanWord d [c] rest
      else if c = '$' then scanDollar rest
      else if isBlank c then .skip rest
      else .found (.other c) rest

/-- The lexemes of a text, read in at most the given number of steps. -/
def lexemesWithin (d : Dialect) : (steps : Nat) → List Char → Option (List Lexeme)
  | _, [] => some []
  | 0, _ :: _ => none
  | steps + 1, c :: rest =>
    match scan d c rest with
    | .skip rest => lexemesWithin d steps rest
    | .found l rest => (lexemesWithin d steps rest).map (l :: ·)
    | .broken => none

/-- The lexemes of a text. Every step reads a character at least. -/
def lexemes (d : Dialect) (text : String) : Option (List Lexeme) :=
  lexemesWithin d text.toList.length text.toList

end Joinery.Filter
