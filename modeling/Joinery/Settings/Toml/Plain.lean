/-!
# Numbers, truth values and times

Which characters are a TOML value that is not a text. The value itself is of no use to any setting.
-/

namespace Joinery.Settings

/-- Digits, between which single underscores may stand. -/
def isDigits (digit : Char → Bool) : List Char → Bool
  | [] => false
  | c :: rest => digit c && areMore rest
where
  areMore : List Char → Bool
    | [] => true
    | '_' :: c :: rest => digit c && areMore rest
    | c :: rest => digit c && areMore rest

/-- What follows a sign. -/
def dropSign : List Char → List Char
  | '+' :: rest | '-' :: rest => rest
  | cs => cs

/-- A decimal number without a sign, which begins with a zero only if it is one. -/
def isDecimal (cs : List Char) : Bool :=
  isDigits Char.isDigit cs && (cs.head? != some '0' || cs.length == 1)

def isHexDigit (c : Char) : Bool :=
  c.isDigit || ('a' ≤ c && c ≤ 'f') || ('A' ≤ c && c ≤ 'F')

/-- An integer. -/
def isInteger : List Char → Bool
  | '0' :: 'x' :: digits => isDigits isHexDigit digits
  | '0' :: 'o' :: digits => isDigits (fun c => '0' ≤ c && c ≤ '7') digits
  | '0' :: 'b' :: digits => isDigits (fun c => c == '0' || c == '1') digits
  | cs => isDecimal (dropSign cs)

/-- A number with places after a point. -/
def isPointed (cs : List Char) : Bool :=
  isDecimal (cs.takeWhile (· ≠ '.')) && isDigits Char.isDigit ((cs.dropWhile (· ≠ '.')).drop 1)

/-- A number with an exponent. -/
def isScaled (cs : List Char) : Bool :=
  let isMark := fun c => c == 'e' || c == 'E'
  let base := cs.takeWhile (!isMark ·)
  (isDecimal base || isPointed base) &&
    isDigits Char.isDigit (dropSign ((cs.dropWhile (!isMark ·)).drop 1))

/-- A number that is no integer, or no number. -/
def isFloat (cs : List Char) : Bool :=
  let size := dropSign cs
  size == ['i', 'n', 'f'] || size == ['n', 'a', 'n'] || isPointed size || isScaled size

/-! ## Times -/

/-- The number that two digits stand for. -/
def twoDigits? (a b : Char) : Option Nat :=
  if a.isDigit && b.isDigit then some (10 * (a.toNat - 48) + (b.toNat - 48)) else none

/-- The days of a month. -/
def daysIn (year month : Nat) : Nat :=
  if month = 2 then
    if year % 4 = 0 ∧ (year % 100 ≠ 0 ∨ year % 400 = 0) then 29 else 28
  else if month = 4 ∨ month = 6 ∨ month = 9 ∨ month = 11 then 30
  else 31

/-- A day. -/
def isDate : List Char → Bool
  | [a, b, c, d, '-', m, n, '-', e, f] =>
    match twoDigits? a b, twoDigits? c d, twoDigits? m n, twoDigits? e f with
    | some century, some year, some month, some day =>
      1 ≤ month && month ≤ 12 && 1 ≤ day && day ≤ daysIn (100 * century + year) month
    | _, _, _, _ => false
  | _ => false

/-- A time of a day to the minute. -/
def isClock (a b c d : Char) : Bool :=
  match twoDigits? a b, twoDigits? c d with
  | some hour, some minute => hour ≤ 23 && minute ≤ 59
  | _, _ => false

/-- A time of a day, and what follows it. -/
def readTime? : List Char → Option (List Char)
  | a :: b :: ':' :: c :: d :: ':' :: e :: f :: rest => do
    let second ← twoDigits? e f
    if isClock a b c d ∧ second ≤ 60 then
      match rest with
      | '.' :: rest =>
        match rest.takeWhile Char.isDigit with
        | [] => none
        | digits => some (rest.drop digits.length)
      | rest => some rest
    else none
  | _ => none

/-- The difference of a time from the common one; nothing for a local time. -/
def isOffset : List Char → Bool
  | [] | ['Z'] | ['z'] => true
  | [sign, a, b, ':', c, d] => (sign == '+' || sign == '-') && isClock a b c d
  | _ => false

/-- A day, a time of a day, or both. -/
def isTime (cs : List Char) : Bool :=
  isDate cs || readTime? cs == some [] ||
    (isDate (cs.take 10) &&
      match cs.drop 10 with
      | mark :: rest => (mark == 'T' || mark == 't' || mark == ' ') && (readTime? rest).any isOffset
      | [] => false)

/-- A number or a truth value. -/
def isPlain (cs : List Char) : Bool :=
  cs == ['t', 'r', 'u', 'e'] || cs == ['f', 'a', 'l', 's', 'e'] || isInteger cs || isFloat cs

/-- The characters that these values are made of, apart from a blank between a day and a time. -/
def isPlainChar (c : Char) : Bool :=
  c.isAlphanum || c == '+' || c == '-' || c == '.' || c == '_' || c == ':'

/-- The characters of a value that is not a text, and what follows them. -/
def splitPlain (cs : List Char) : List Char × List Char :=
  let first := cs.takeWhile isPlainChar
  match cs.dropWhile isPlainChar with
  | ' ' :: c :: rest =>
    if isDate first && c.isDigit then
      (first ++ ' ' :: (c :: rest).takeWhile isPlainChar, (c :: rest).dropWhile isPlainChar)
    else (first, ' ' :: c :: rest)
  | rest => (first, rest)

end Joinery.Settings
