import Joinery.Text.Blank
import Joinery.Text.Pieces

/-!
# Links

A link says that the columns of one table match those of another, position by position. Catalogs
may store a list of columns as one text: `columnList` splits it.
-/

namespace Joinery

open Text

/-- The columns of one table that match those of another. -/
structure Link where
  leftTable : String
  rightTable : String
  leftColumns : List String
  rightColumns : List String
  deriving DecidableEq, Inhabited

namespace Link

/-- The same link, seen from its other table. -/
def reversed (l : Link) : Link where
  leftTable := l.rightTable
  rightTable := l.leftTable
  leftColumns := l.rightColumns
  rightColumns := l.leftColumns

/-- The pairs of columns that have to be equal, in positional order. -/
def predicates (l : Link) : List (String × String) :=
  l.leftColumns.zip l.rightColumns

/-- The columns that the link reads from a table. -/
def columnsFor (l : Link) (table : String) : List String :=
  if table = l.leftTable then l.leftColumns
  else if table = l.rightTable then l.rightColumns
  else []

end Link

/-- What separates the columns of a list where nothing else is said. -/
def defaultDelimiter : String := ","

/-- The text between one pair of parentheses that encloses it, or the text itself. -/
def withoutParentheses : List Char → List Char
  | '(' :: rest => if rest.getLast? = some ')' then rest.dropLast else '(' :: rest
  | text => text

/-- The trimmed names that are not blank. -/
def columnNames (names : List String) : List String :=
  (names.map trim).filter (· ≠ "")

/-- The columns of a list written as one text: one pair of parentheses around it is dropped, it is
cut at the delimiter, and blank pieces do not count. -/
def columnList (text delimiter : String) : List String :=
  let separator := if delimiter = "" then defaultDelimiter else delimiter
  columnNames
    ((pieces separator.toList (withoutParentheses (trimChars text.toList))).map String.ofList)

/-- The link of a catalog row whose column lists are written as texts. -/
def Link.ofTexts (leftTable rightTable leftColumns rightColumns delimiter : String) : Link where
  leftTable := trim leftTable
  rightTable := trim rightTable
  leftColumns := columnList leftColumns delimiter
  rightColumns := columnList rightColumns delimiter

end Joinery
