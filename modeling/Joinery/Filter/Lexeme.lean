import Joinery.Dialect

/-!
# Lexemes

The units that a filter text is read as: words, numbers, quoted texts and symbols. `Lexeme.shown` is
how a lexeme is shown in a message, `Lexeme.key` what decides whether a word is a reserved one.
-/

namespace Joinery.Filter

/-- The ways in which a text is quoted. -/
inductive Quoting
  | single
  | double
  | national
  | escaped
  | codePoints
  | hex
  | bytes
  | doubleBytes
  /-- Between dollar signs with a tag, which may be empty. -/
  | dollar (tag : String)
  deriving DecidableEq

/-- A unit of a filter text. -/
inductive Lexeme
  /-- A word, or a name between delimiters, of which the opening one is kept. -/
  | word (value : String) (quote : Option Char)
  | number (digits : String) (long : Bool)
  | text (quoting : Quoting) (value : String)
  | symbol (mark : String)
  | placeholder (mark : String)
  /-- A run of operator characters that is none of the symbols. -/
  | operator (mark : String)
  | other (char : Char)
  deriving DecidableEq

/-- The closing delimiter that belongs to an opening one. -/
def closingOf (opening : Char) : Char :=
  if opening = '[' then ']' else opening

namespace Lexeme

/-- How a quoted text is shown. Quotes inside it are shown once. -/
def quotedText (quoting : Quoting) (value : String) : String :=
  match quoting with
  | .single => "'" ++ value ++ "'"
  | .double => "\"" ++ value ++ "\""
  | .national => "N'" ++ value ++ "'"
  | .escaped => "E'" ++ value ++ "'"
  | .codePoints => "U&'" ++ value ++ "'"
  | .hex => "X'" ++ value ++ "'"
  | .bytes => "B'" ++ value ++ "'"
  | .doubleBytes => "B\"" ++ value ++ "\""
  | .dollar tag => "$" ++ tag ++ "$" ++ value ++ "$" ++ tag ++ "$"

/-- How a lexeme is shown in a message. -/
def shown : Lexeme → String
  | word value none => value
  | word value (some q) => q.toString ++ value ++ (closingOf q).toString
  | number digits long => if long then digits ++ "L" else digits
  | text quoting value => quotedText quoting value
  | symbol mark | placeholder mark | operator mark => mark
  | other char => char.toString

/-- The capitals of a character as far as they can be part of a reserved word. -/
def capitals (c : Char) : List Char :=
  match c with
  | 'ı' => ['I']
  | 'ſ' => ['S']
  | 'ß' => ['S', 'S']
  | '\uFB00' => ['F', 'F']
  | '\uFB01' => ['F', 'I']
  | '\uFB02' => ['F', 'L']
  | '\uFB03' => ['F', 'F', 'I']
  | '\uFB04' => ['F', 'F', 'L']
  | '\uFB05' | '\uFB06' => ['S', 'T']
  | c => [c.toUpper]

/-- The capital form of a word without delimiters, by which reserved words are known; empty for
anything else. -/
def key : Lexeme → String
  | word value none => String.ofList (value.toList.flatMap capitals)
  | _ => ""

/-- The lexeme is a given symbol. -/
def isSymbol (l : Lexeme) (mark : String) : Bool :=
  l = symbol mark

end Lexeme

end Joinery.Filter
