/-!
# Values to be written

JSON values as the project writes them, on one line (`Value.line`) or with one item or member on each
line (`Value.lines`). Only the characters that have to be escaped in a text are.
-/

namespace Joinery.Json

/-- A value to be written. -/
inductive Value
  | null
  | text (value : String)
  | arr (items : List Value)
  | obj (members : List (String × Value))

/-- A hexadecimal digit in lower case. -/
def hexChar (n : Nat) : Char :=
  Nat.digitChar n

/-- A character as it is written in a text. -/
def escape (c : Char) : List Char :=
  if c = '"' then ['\\', '"']
  else if c = '\\' then ['\\', '\\']
  else if c = '\x08' then ['\\', 'b']
  else if c = '\x0c' then ['\\', 'f']
  else if c = '\n' then ['\\', 'n']
  else if c = '\r' then ['\\', 'r']
  else if c = '\t' then ['\\', 't']
  else if c < ' ' then ['\\', 'u', '0', '0', hexChar (c.toNat / 16), hexChar (c.toNat % 16)]
  else [c]

/-- A text between its quotes. -/
def quotedChars (s : String) : List Char :=
  '"' :: s.toList.flatMap escape ++ ['"']

/-- What stands between the parts of a list or an object, and inside its ends. -/
structure Layout where
  /-- Between the opening bracket and the first part, and after each comma. -/
  before : (depth : Nat) → List Char
  /-- Between the last part and the closing bracket. -/
  after : (depth : Nat) → List Char
  /-- Between a name and its value. -/
  colon : List Char

/-- Everything on one line. -/
def Layout.line : Layout where
  before _ := []
  after _ := []
  colon := [':']

/-- A new line at a depth of two blanks for each level. -/
def lineBreak (depth : Nat) : List Char :=
  '\n' :: List.replicate (2 * depth) ' '

/-- Each part on a line of its own. -/
def Layout.lines : Layout where
  before depth := lineBreak (depth + 1)
  after depth := lineBreak depth
  colon := [':', ' ']

namespace Value

mutual

/-- A value in a layout, at a depth. -/
def chars (l : Layout) (depth : Nat) : Value → List Char
  | null => ['n', 'u', 'l', 'l']
  | text value => quotedChars value
  | arr [] => ['[', ']']
  | arr items => '[' :: itemChars l depth items ++ l.after depth ++ [']']
  | obj [] => ['\x7b', '\x7d']
  | obj members => '\x7b' :: memberChars l depth members ++ l.after depth ++ ['\x7d']

/-- Items with commas between them. -/
def itemChars (l : Layout) (depth : Nat) : List Value → List Char
  | [] => []
  | [item] => l.before depth ++ chars l (depth + 1) item
  | item :: items => l.before depth ++ chars l (depth + 1) item ++ ',' :: itemChars l depth items

/-- Members with commas between them. -/
def memberChars (l : Layout) (depth : Nat) : List (String × Value) → List Char
  | [] => []
  | [(name, value)] => l.before depth ++ quotedChars name ++ l.colon ++ chars l (depth + 1) value
  | (name, value) :: members =>
    l.before depth ++ quotedChars name ++ l.colon ++ chars l (depth + 1) value ++
      ',' :: memberChars l depth members

end

/-- A value on one line. -/
def line (v : Value) : String :=
  String.ofList (v.chars .line 0)

/-- A value on several lines. -/
def lines (v : Value) : String :=
  String.ofList (v.chars .lines 0)

end Value

end Joinery.Json
