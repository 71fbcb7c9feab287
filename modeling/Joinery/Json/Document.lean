import Joinery.Json.Double

/-!
# Documents

A text is read as a `Document` as far as it goes, even if something is wrong in it: what counts as
wrong depends on what the reader wants to know. A reader that passes over a part of a document (`stop`)
forgives more than one that asks for its value, and one that expects another kind of value learns that
first.
-/

namespace Joinery.Json

/-- What is wrong with a text. -/
inductive Fault
  /-- It ends too early. -/
  | early
  | malformed
  deriving DecidableEq

/-- A value without parts. -/
inductive Scalar
  | null
  | bool (value : Bool)
  | integer (value : Int)
  | float (negative : Bool) (size : Double)
  | text (value : String)
  deriving DecidableEq

/-- What was read of a text. `stop` is what is wrong for a reader that passes over the document;
the text behind it was read only where that is nothing. -/
inductive Document
  | scalar (value : Except Fault Scalar) (stop : Option Fault)
  | arr (items : List Document) (stop : Option Fault)
  | obj (members : List (Except Fault String × Document)) (stop : Option Fault)

namespace Document

/-- What is wrong with a document for a reader that passes over it. -/
def stop : Document → Option Fault
  | scalar _ stop | arr _ stop | obj _ stop => stop

/-- No document. -/
def broken (fault : Fault) : Document :=
  scalar (.error fault) (some fault)

end Document

/-! ## Texts -/

/-- What stands for a character, or for half of one, in a text. -/
inductive TextUnit
  | char (value : Char)
  | code (value : Nat)
  deriving DecidableEq

/-- The character for a letter behind a backslash. -/
def escaped? : Char → Option Char
  | '"' => some '"'
  | '\\' => some '\\'
  | '/' => some '/'
  | 'b' => some '\x08'
  | 'f' => some '\x0c'
  | 'n' => some '\n'
  | 'r' => some '\r'
  | 't' => some '\t'
  | _ => none

/-- The value of a hexadecimal digit. -/
def hexDigit? (c : Char) : Option Nat :=
  if '0' ≤ c ∧ c ≤ '9' then some (c.toNat - 48)
  else if 'a' ≤ c ∧ c ≤ 'f' then some (c.toNat - 87)
  else if 'A' ≤ c ∧ c ≤ 'F' then some (c.toNat - 55)
  else none

/-- The value of some hexadecimal digits. -/
def hexValue? (cs : List Char) : Option Nat :=
  cs.foldlM (fun n c => (hexDigit? c).map (16 * n + ·)) 0

/-- The number of bytes that characters take. -/
def byteCount (cs : List Char) : Nat :=
  cs.foldl (fun n c => n + c.utf8Size) 0

/-- The units up to the closing quote, and what follows that. -/
def scanUnits : List Char → List TextUnit × Except Fault (List Char)
  | [] | ['\\'] => ([], .error .early)
  | '"' :: rest => ([], .ok rest)
  | '\\' :: 'u' :: a :: b :: c :: d :: rest =>
    match hexValue? [a, b, c, d] with
    | some n =>
      let (units, rest) := scanUnits rest
      (.code n :: units, rest)
    | none => ([], .error .malformed)
  | '\\' :: 'u' :: rest => ([], .error (if byteCount rest < 4 then .early else .malformed))
  | '\\' :: c :: rest =>
    match escaped? c with
    | some c =>
      let (units, rest) := scanUnits rest
      (.char c :: units, rest)
    | none => ([], .error .malformed)
  | c :: rest =>
    if c < ' ' then ([], .error .malformed)
    else
      let (units, rest) := scanUnits rest
      (.char c :: units, rest)

/-- A code that is the first half of a character. -/
def isFirstHalf (n : Nat) : Bool :=
  0xD800 ≤ n && n ≤ 0xDBFF

/-- A code that is the second half of a character. -/
def isSecondHalf (n : Nat) : Bool :=
  0xDC00 ≤ n && n ≤ 0xDFFF

/-- The character with two halves. -/
def joinHalves (first second : Nat) : Char :=
  Char.ofNat (0x10000 + (first - 0xD800) * 0x400 + (second - 0xDC00))

/-- The characters that units stand for. Halves have to come in pairs. `fault` is what is wrong behind
the units. -/
def decodeUnits (fault : Option Fault) : List TextUnit → Except Fault (List Char)
  | [] => match fault with
    | some f => .error f
    | none => .ok []
  | .char c :: rest => do return c :: (← decodeUnits fault rest)
  | .code n :: rest =>
    if isSecondHalf n then .error .malformed
    else if isFirstHalf n then
      match rest with
      | .code m :: rest =>
        if isSecondHalf m then do return joinHalves n m :: (← decodeUnits fault rest)
        else .error .malformed
      | .char _ :: _ => .error .malformed
      | [] => .error (fault.getD .malformed)
    else do return Char.ofNat n :: (← decodeUnits fault rest)

/-- A text behind its opening quote: its value, and what follows it. -/
def scanText (cs : List Char) : Except Fault String × Except Fault (List Char) :=
  let (units, rest) := scanUnits cs
  let fault := match rest with
    | .ok _ => none
    | .error f => some f
  ((decodeUnits fault units).map String.ofList, rest)

/-! ## Numbers -/

/-- A number as it is written. -/
structure Numeral where
  negative : Bool
  whole : List Char
  places : List Char
  power : Option Int

/-- The number that digits stand for. -/
def decimalValue (cs : List Char) : Nat :=
  cs.foldl (fun n c => 10 * n + (c.toNat - 48)) 0

/-- Puts further digits behind a number as long as that stays within 64 bits. Gives the number and how
many digits were left out. -/
def appendDigits : Nat → List Char → Nat × Nat
  | n, [] => (n, 0)
  | n, c :: cs =>
    let longer := 10 * n + (c.toNat - 48)
    if longer < Nat.pow 2 64 then appendDigits longer cs else (n, (c :: cs).length)

/-- The value of a number, if it is not too large. -/
def Numeral.value? (n : Numeral) : Option Scalar :=
  let (digits, left) := appendDigits 0 n.whole
  let isWhole := n.places.isEmpty && n.power.isNone && left == 0
  if isWhole && !n.negative then some (.integer digits)
  else if isWhole && 0 < digits && digits ≤ Nat.pow 2 63 then some (.integer (-digits))
  else
    let (digits, leftPlaces) := appendDigits digits n.places
    let power : Int := left - (n.places.length - leftPlaces : Nat) + n.power.getD 0
    (Double.ofDecimal? digits power).map (.float n.negative)

/-- Some digits, of which there has to be one, and what follows them. -/
def scanDigits (cs : List Char) : Except Fault (List Char × List Char) :=
  match cs.takeWhile Char.isDigit, cs.dropWhile Char.isDigit with
  | [], [] => .error .early
  | [], _ :: _ => .error .malformed
  | digits, rest => .ok (digits, rest)

/-- The places behind a point, if there is one. -/
def scanPlaces : List Char → Except Fault (List Char × List Char)
  | '.' :: rest => scanDigits rest
  | rest => .ok ([], rest)

/-- The power of ten of a number, if one is written. -/
def scanPower : List Char → Except Fault (Option Int × List Char)
  | e :: rest =>
    if e = 'e' ∨ e = 'E' then
      match rest with
      | '-' :: rest => do
        let (digits, rest) ← scanDigits rest
        return (some (-decimalValue digits), rest)
      | '+' :: rest => do
        let (digits, rest) ← scanDigits rest
        return (some (decimalValue digits), rest)
      | rest => do
        let (digits, rest) ← scanDigits rest
        return (some (decimalValue digits), rest)
    else .ok (none, e :: rest)
  | [] => .ok (none, [])

/-- A number behind its sign. A zero cannot have digits behind it. -/
def scanNumeral (negative : Bool) (cs : List Char) : Except Fault (Numeral × List Char) := do
  let (whole, rest) ← scanDigits cs
  match whole with
  | '0' :: _ :: _ => .error .malformed
  | _ =>
    let (places, rest) ← scanPlaces rest
    let (power, rest) ← scanPower rest
    return (⟨negative, whole, places, power⟩, rest)

/-- A number as a document. One who passes over a number that breaks off sees no end of the text. -/
def scanNumber (negative : Bool) (cs : List Char) : Document × List Char :=
  match scanNumeral negative cs with
  | .error f => (.scalar (.error f) (some .malformed), [])
  | .ok (n, rest) =>
    match n.value? with
    | some value => (.scalar (.ok value) none, rest)
    | none => (.scalar (.error .malformed) none, rest)

/-! ## Documents -/

/-- The characters between the parts of a document. -/
def isSpace (c : Char) : Bool :=
  c == ' ' || c == '\t' || c == '\n' || c == '\r'

/-- What follows the characters between parts. -/
def dropSpace (cs : List Char) : List Char :=
  cs.dropWhile isSpace

/-- A value written as a word, of which the first letter was read. -/
def scanWord (value : Scalar) : (letters : List Char) → List Char → Document × List Char
  | [], rest => (.scalar (.ok value) none, rest)
  | _ :: _, [] => (.broken .early, [])
  | l :: ls, c :: rest => if l = c then scanWord value ls rest else (.broken .malformed, [])

/-- A value without parts. -/
def scanScalar (c : Char) (rest : List Char) : Document × List Char :=
  match c with
  | 'n' => scanWord .null ['u', 'l', 'l'] rest
  | 't' => scanWord (.bool true) ['r', 'u', 'e'] rest
  | 'f' => scanWord (.bool false) ['a', 'l', 's', 'e'] rest
  | '"' =>
    match scanText rest with
    | (value, .ok rest) => (.scalar (value.map .text) none, rest)
    | (value, .error f) => (.scalar (value.map .text) (some f), [])
  | '-' => scanNumber true rest
  | c => if c.isDigit then scanNumber false (c :: rest) else (.broken .malformed, [])

/-- What is wrong where a list or an object should go on or end. -/
def faultAt : List Char → Fault
  | [] => .early
  | _ :: _ => .malformed

mutual

/-- A document and what follows it, read in at most the given number of steps. -/
def scanWithin : (steps : Nat) → List Char → Document × List Char
  | 0, _ => (.broken .early, [])
  | steps + 1, cs =>
    match dropSpace cs with
    | [] => (.broken .early, [])
    | '[' :: rest =>
      match dropSpace rest with
      | [] => (.arr [] (some .early), [])
      | ']' :: rest => (.arr [] none, rest)
      | rest =>
        let (items, stop, rest) := scanItems steps rest
        (.arr items stop, rest)
    | '\x7b' :: rest =>
      match dropSpace rest with
      | [] => (.obj [] (some .early), [])
      | '\x7d' :: rest => (.obj [] none, rest)
      | rest =>
        let (members, stop, rest) := scanMembers steps rest
        (.obj members stop, rest)
    | c :: rest => scanScalar c rest

/-- The items of a list up to its end. -/
def scanItems : (steps : Nat) → List Char → List Document × Option Fault × List Char
  | 0, _ => ([], some .early, [])
  | steps + 1, cs =>
    let (item, rest) := scanWithin steps cs
    match item.stop with
    | some f => ([item], some f, [])
    | none =>
      match dropSpace rest with
      | ']' :: rest => ([item], none, rest)
      | ',' :: rest =>
        let (items, stop, rest) := scanItems steps rest
        (item :: items, stop, rest)
      | rest => ([item], some (faultAt rest), [])

/-- The members of an object up to its end. -/
def scanMembers : (steps : Nat) → List Char →
    List (Except Fault String × Document) × Option Fault × List Char
  | 0, _ => ([], some .early, [])
  | steps + 1, cs =>
    match dropSpace cs with
    | '"' :: rest =>
      match scanText rest with
      | (key, .error f) => ([(key, .broken f)], some f, [])
      | (key, .ok rest) =>
        match dropSpace rest with
        | ':' :: rest =>
          let (value, rest) := scanWithin steps rest
          match value.stop with
          | some f => ([(key, value)], some f, [])
          | none =>
            match dropSpace rest with
            | '\x7d' :: rest => ([(key, value)], none, rest)
            | ',' :: rest =>
              let (members, stop, rest) := scanMembers steps rest
              ((key, value) :: members, stop, rest)
            | rest => ([(key, value)], some (faultAt rest), [])
        | rest => ([(key, .broken (faultAt rest))], some (faultAt rest), [])
    | rest => ([], some (faultAt rest), [])

end

/-- The document at the front of a text and what follows it. Every part takes a character at least,
and a list in a list two steps. -/
def scan (cs : List Char) : Document × List Char :=
  scanWithin (2 * cs.length + 2) cs

end Joinery.Json
