import Joinery.Json.Document
import Joinery.Settings.Toml.Plain
import Joinery.Settings.Toml.Tree

/-!
# Reading TOML texts

`Toml.ofText` reads a text line by line into a tree. A reader takes characters off the front of what is
left, or fails; why a text is no TOML is never told.
-/

namespace Joinery.Settings

/-- Takes a value off the front of a text. -/
abbrev TomlReader := StateT (List Char) Option

namespace TomlReader

/-- The text is wrong. -/
def stuck {α : Type} : TomlReader α :=
  fun _ => none

/-- Runs a reader with a bound on its own recursion: each step of it takes a character at least. -/
def withBound {α : Type} (reader : Nat → TomlReader α) : TomlReader α := fun cs =>
  reader (cs.length + 1) cs

/-- The next character, which stays where it is. -/
def peek : TomlReader (Option Char) := do
  return (← get).head?

/-- Takes given characters if they come next. -/
def take? (expected : List Char) : TomlReader Bool := do
  match expected.isPrefixOf? (← get) with
  | some rest => do
    set rest
    return true
  | none => return false

/-- Takes given characters, which have to come next. -/
def take (expected : List Char) : TomlReader Unit := do
  if ← take? expected then return () else stuck

/-- Takes the characters that pass a test. -/
def takeWhile (test : Char → Bool) : TomlReader (List Char) := do
  let cs ← get
  set (cs.dropWhile test)
  return cs.takeWhile test

/-! ## Blanks and comments -/

def isTomlBlank (c : Char) : Bool :=
  c == ' ' || c == '\t'

/-- A character that cannot stand in a text or a comment. -/
def isControl (c : Char) : Bool :=
  (c < ' ' && c != '\t') || c == '\x7f'

/-- Passes over blanks. -/
def blanks : TomlReader Unit := do
  let _ ← takeWhile isTomlBlank

/-- Takes the end of a line if it comes next. -/
def lineEnd? : TomlReader Bool := do
  if ← take? ['\n'] then return true else take? ['\r', '\n']

/-- Passes over a comment, if one comes next. -/
def comment : TomlReader Unit := do
  if ← take? ['#'] then
    let _ ← takeWhile (!isControl ·)

/-- Passes over blanks and a comment to the end of a line or of the text. -/
def endLine : TomlReader Unit := do
  blanks
  comment
  if (← lineEnd?) || (← get).isEmpty then return () else stuck

/-- Passes over blanks, comments and ends of lines, at most as many lines as given. -/
def gapWithin : Nat → TomlReader Unit
  | 0 => return ()
  | bound + 1 => do
    blanks
    comment
    if ← lineEnd? then gapWithin bound

/-- Passes over blanks, comments and ends of lines. -/
def gap : TomlReader Unit :=
  withBound gapWithin

/-! ## Texts -/

/-- The character with a code point in hexadecimal digits. -/
def codePoint? (digits : List Char) : Option Char := do
  let n ← Json.hexValue? digits
  if n.isValidChar then some (Char.ofNat n) else none

/-- What a backslash and the characters behind it stand for. -/
def escape : TomlReader Char := do
  match ← get with
  | 'u' :: a :: b :: c :: d :: rest => do
    set rest
    codePoint? [a, b, c, d]
  | 'U' :: a :: b :: c :: d :: e :: f :: g :: h :: rest => do
    set rest
    codePoint? [a, b, c, d, e, f, g, h]
  | c :: rest => do
    set rest
    if c = '/' then stuck else Json.escaped? c
  | [] => stuck

/-- The characters of a text up to its closing quote, at most as many as given. -/
def quotedWithin (quote : Char) : Nat → TomlReader (List Char)
  | 0 => stuck
  | bound + 1 => do
    match ← get with
    | [] => stuck
    | c :: rest => do
      set rest
      if c = quote then return []
      else if c = '\\' ∧ quote = '"' then return (← escape) :: (← quotedWithin quote bound)
      else if isControl c then stuck
      else return c :: (← quotedWithin quote bound)

/-- Passes over the end of a line behind a backslash, and all blanks and ends of lines that follow. -/
def joinLines : TomlReader Unit := do
  blanks
  if ← lineEnd? then
    let _ ← takeWhile fun c => isTomlBlank c || c == '\n' || c == '\r'
  else stuck

/-- The characters of a text on several lines up to its three closing quotes, at most as many as
given. Up to two quotes can stand right before these. -/
def longWithin (quote : Char) : Nat → TomlReader (List Char)
  | 0 => stuck
  | bound + 1 => do
    if ← take? [quote, quote, quote] then
      if ← take? [quote, quote] then return [quote, quote]
      else if ← take? [quote] then return [quote]
      else return []
    else
      match ← get with
      | [] => stuck
      | '\r' :: '\n' :: rest => do
        set rest
        return '\r' :: '\n' :: (← longWithin quote bound)
      | c :: rest => do
        set rest
        if c = '\\' ∧ quote = '"' then
          match ← peek with
          | some ' ' | some '\t' | some '\n' | some '\r' => do
            joinLines
            longWithin quote bound
          | _ => return (← escape) :: (← longWithin quote bound)
        else if isControl c ∧ c ≠ '\n' then stuck
        else return c :: (← longWithin quote bound)

/-- A text in quotes of a kind, on one line or on several. -/
def quoted (quote : Char) : TomlReader String := do
  if ← take? [quote, quote, quote] then
    let _ ← lineEnd?
    return String.ofList (← withBound (longWithin quote))
  else do
    take [quote]
    return String.ofList (← withBound (quotedWithin quote))

/-! ## Keys -/

def isKeyChar (c : Char) : Bool :=
  c.isAlphanum || c == '_' || c == '-'

/-- A key without points. -/
def simpleKey : TomlReader String := do
  match ← peek with
  | some '"' => do
    take ['"']
    return String.ofList (← withBound (quotedWithin '"'))
  | some '\'' => do
    take ['\'']
    return String.ofList (← withBound (quotedWithin '\''))
  | _ =>
    match ← takeWhile isKeyChar with
    | [] => stuck
    | key => return String.ofList key

/-- The keys of a path up to its end, at most as many as given. The last one comes second. -/
def keyWithin : Nat → TomlReader (List String × String)
  | 0 => stuck
  | bound + 1 => do
    blanks
    let key ← simpleKey
    blanks
    if ← take? ['.'] then do
      let (path, last) ← keyWithin bound
      return (key :: path, last)
    else return ([], key)

/-- A key: the tables it leads through, and the key in the last of them. -/
def key : TomlReader (List String × String) :=
  withBound keyWithin

/-! ## Values -/

/-- The items of an array up to its closing bracket, at most as many as given. -/
def itemsWithin (value : TomlReader Toml) : Nat → TomlReader (List Toml)
  | 0 => stuck
  | bound + 1 => do
    gap
    if ← take? [']'] then return []
    else do
      let item ← value
      gap
      if ← take? [','] then return item :: (← itemsWithin value bound)
      else do
        take [']']
        return [item]

/-- Adds the entries of a table in braces up to the closing one, at most as many as given. -/
def entriesWithin (value : TomlReader Toml) (t : Toml) : Nat → TomlReader Toml
  | 0 => stuck
  | bound + 1 => do
    let (path, last) ← key
    take ['=']
    blanks
    let v ← value
    blanks
    let t ← Toml.addValue path last v t
    if ← take? [','] then entriesWithin value t bound
    else do
      take ['\x7d']
      return t

/-- A value, inside which no more values nest than given. -/
def valueWithin : Nat → TomlReader Toml
  | 0 => stuck
  | bound + 1 => do
    match ← peek with
    | some '"' => return .text (← quoted '"')
    | some '\'' => return .text (← quoted '\'')
    | some '[' => do
      take ['[']
      return .array (← withBound (itemsWithin (valueWithin bound)))
    | some '\x7b' => do
      take ['\x7b']
      blanks
      if ← take? ['\x7d'] then return .table [] .closed
      else
        match ← withBound (entriesWithin (valueWithin bound) Toml.root) with
        | .table entries _ => return .table entries .closed
        | _ => stuck
    | _ => do
      let (chars, rest) := splitPlain (← get)
      set rest
      if isTime chars then return .time
      else if isPlain chars then return .plain
      else stuck

/-- A value. -/
def value : TomlReader Toml :=
  withBound valueWithin

/-! ## Lines -/

/-- What was read of a text: the tree, and the way to the table that lines are added to. -/
structure Progress where
  tree : Toml
  path : List String

/-- A line of a text. -/
def line (p : Progress) : TomlReader Progress := do
  blanks
  match ← peek with
  | none | some '#' | some '\n' | some '\r' => return p
  | some '[' =>
    if ← take? ['[', '['] then do
      let (path, last) ← key
      take [']', ']']
      return ⟨← p.tree.addToSeries path last, path ++ [last]⟩
    else do
      take ['[']
      let (path, last) ← key
      take [']']
      return ⟨← p.tree.addTable path last, path ++ [last]⟩
  | some _ => do
    let (path, last) ← key
    take ['=']
    blanks
    let v ← value
    let tree ← p.tree.changeAt false (Toml.addValue path last v) p.path
    return { p with tree }

/-- The lines of a text, at most as many as given. -/
def linesWithin (p : Progress) : Nat → TomlReader Progress
  | 0 => stuck
  | bound + 1 => do
    let p ← line p
    endLine
    if (← get).isEmpty then return p else linesWithin p bound

end TomlReader

/-- Reads a text. A mark of the order of bytes may stand in front of it. -/
def Toml.ofText? (text : String) : Option Toml := do
  let cs := match text.toList with
    | '\uFEFF' :: rest => rest
    | cs => cs
  let (p, _) ← (TomlReader.withBound (TomlReader.linesWithin ⟨.root, []⟩)).run cs
  return p.tree

end Joinery.Settings
