/-!
# Pieces of a text

`pieces` cuts a text at every occurrence of a separator, found from the left and never overlapping.
A text without the separator is one piece, so there is always at least one.
-/

namespace Joinery.Text

/-- Puts a character in front of the first piece. -/
def consHead (c : Char) : List (List Char) → List (List Char)
  | [] => [[c]]
  | piece :: rest => (c :: piece) :: rest

/-- Cuts at the separator; the first `skip` characters belong to one that was found already. -/
def piecesAfter (separator : List Char) : (skip : Nat) → List Char → List (List Char)
  | _, [] => [[]]
  | skip + 1, _ :: rest => piecesAfter separator skip rest
  | 0, c :: rest =>
    if separator.isPrefixOf (c :: rest) then
      [] :: piecesAfter separator (separator.length - 1) rest
    else consHead c (piecesAfter separator 0 rest)

/-- The pieces of a text between the occurrences of a separator that is not empty. -/
def pieces (separator text : List Char) : List (List Char) :=
  piecesAfter separator 0 text

/-- The text after a beginning, if it begins so, and the whole text otherwise. -/
def dropBeginning (beginning text : List Char) : List Char :=
  (beginning.isPrefixOf? text).getD text

end Joinery.Text
