import Joinery.Catalog.Database
import Joinery.Text.Lowercase

/-!
# Database files

`storedLinks?` finds the table of links in the bytes of an SQLite file and gives its rows. A file is a
sequence of pages, a table is a tree of pages, and a row is a record in a leaf of this tree; a record
that is too long for its page goes on in pages of its own. The first page begins the table of all tables.
-/

namespace Joinery.DatabaseFile

open Text

/-! ## Numbers -/

/-- The number in some bytes, the highest one first. -/
def number? (bytes : ByteArray) (start length : Nat) : Option Nat :=
  (List.range length).foldlM (fun n i => do return 256 * n + (← bytes[start + i]?).toNat) 0

/-- Goes on with a number of seven bits in a byte; the byte at the bound has eight. With the number comes
the place behind it. -/
def shortWithin (bytes : ByteArray) (n : Nat) : Nat → Nat → Option (Nat × Nat)
  | 0, start => do
    let b ← bytes[start]?
    return (256 * n + b.toNat, start + 1)
  | bound + 1, start => do
    let b ← bytes[start]?
    if b < 128 then return (128 * n + b.toNat, start + 1)
    else shortWithin bytes (128 * n + b.toNat - 128) bound (start + 1)

/-- A number in one to nine bytes, and the place behind it. -/
def short? (bytes : ByteArray) (start : Nat) : Option (Nat × Nat) :=
  shortWithin bytes 0 8 start

/-- Some bytes in a row. -/
def slice? (bytes : ByteArray) (start length : Nat) : Option ByteArray :=
  if start + length ≤ bytes.size then some (bytes.extract start (start + length)) else none

/-! ## Pages -/

/-- A database with what its first page says about all others. -/
structure Pages where
  bytes : ByteArray
  pageSize : Nat
  /-- The bytes of a page that hold anything. -/
  usable : Nat

/-- What a database begins with. -/
def magic : List UInt8 :=
  "SQLite format 3\x00".toUTF8.toList

/-- Reads the first page. The texts have to be in UTF-8. -/
def Pages.ofBytes? (bytes : ByteArray) : Option Pages := do
  let size ← number? bytes 16 2
  let pageSize := if size = 1 then 65536 else size
  let unused ← number? bytes 20 1
  let encoding ← number? bytes 56 4
  if (bytes.extract 0 16).toList = magic ∧ 512 ≤ pageSize ∧ unused ≤ 32 ∧ encoding ≤ 1 then
    return ⟨bytes, pageSize, pageSize - unused⟩
  else none

namespace Pages

/-- The place of a page; they are counted from one. -/
def start (p : Pages) (page : Nat) : Nat :=
  (page - 1) * p.pageSize

/-- The rest of a record from a page on, which lies in no more pages than given. -/
def restWithin (p : Pages) : Nat → Nat → Nat → Option ByteArray
  | 0, _, _ => none
  | bound + 1, page, size => do
    if page = 0 then none
    let here := min size (p.usable - 4)
    let part ← slice? p.bytes (p.start page + 4) here
    if size ≤ here then return part
    let next ← number? p.bytes (p.start page) 4
    return part ++ (← restWithin p bound next (size - here))

/-- The size of the part of a record that stays in its page. -/
def keptSize (p : Pages) (size : Nat) : Nat :=
  let most := p.usable - 35
  if size ≤ most then size
  else
    let least := (p.usable - 12) * 32 / 255 - 23
    let even := least + (size - least) % (p.usable - 4)
    if even ≤ most then even else least

/-- The record of a size at a place. -/
def record? (p : Pages) (start size : Nat) : Option ByteArray := do
  let kept := p.keptSize size
  let part ← slice? p.bytes start kept
  if size ≤ kept then return part
  let next ← number? p.bytes (start + kept) 4
  return part ++ (← p.restWithin (p.bytes.size / p.pageSize + 1) next (size - kept))

/-- The record of a row in a leaf. -/
def rowAt? (p : Pages) (start : Nat) : Option ByteArray := do
  let (size, start) ← short? p.bytes start
  let (_, start) ← short? p.bytes start
  p.record? start size

/-- The records below a page, from which no more levels go down than given. -/
def recordsWithin (p : Pages) : Nat → Nat → Option (List ByteArray)
  | 0, _ => none
  | bound + 1, page => do
    if page = 0 then none
    let start := p.start page
    let header := if page = 1 then 100 else start
    let count ← number? p.bytes (header + 3) 2
    let places := fun (first : Nat) => (List.range count).mapM fun i => do
      return start + (← number? p.bytes (first + 2 * i) 2)
    match ← number? p.bytes header 1 with
    | 13 => (← places (header + 8)).mapM p.rowAt?
    | 5 =>
      let children ← (← places (header + 12)).mapM (number? p.bytes · 4)
      let last ← number? p.bytes (header + 8) 4
      return (← (children ++ [last]).mapM (recordsWithin p bound)).flatten
    | _ => none

/-- The records of a table by its first page. -/
def records? (p : Pages) (page : Nat) : Option (List ByteArray) :=
  p.recordsWithin 20 page

end Pages

/-! ## Records -/

/-- A value of a record: the number of its type, and its bytes. -/
structure Stored where
  type : Nat
  bytes : ByteArray

/-- The size of a value of a type. -/
def sizeOfType (type : Nat) : Nat :=
  if 12 ≤ type then (type - 12) / 2
  else
    match type with
    | 1 | 2 | 3 | 4 => type
    | 5 => 6
    | 6 | 7 => 8
    | _ => 0

/-- The types in the header of a record up to its end, at most as many as given. -/
def typesWithin (record : ByteArray) (last : Nat) : Nat → Nat → Option (List Nat)
  | 0, _ => none
  | bound + 1, start => do
    if last ≤ start then return []
    let (type, start) ← short? record start
    return type :: (← typesWithin record last bound start)

/-- Values of given types, one behind the other. -/
def valuesFrom (record : ByteArray) (start : Nat) : List Nat → Option (List Stored)
  | [] => some []
  | type :: types => do
    let bytes ← slice? record start (sizeOfType type)
    return ⟨type, bytes⟩ :: (← valuesFrom record (start + sizeOfType type) types)

/-- The values of a record. -/
def values? (record : ByteArray) : Option (List Stored) := do
  let (last, start) ← short? record 0
  valuesFrom record last (← typesWithin record last (record.size + 1) start)

namespace Stored

/-- What a query sees of a value. -/
def cell (s : Stored) : Cell :=
  match s.type with
  | 0 => .null
  | 7 => .real
  | type =>
    if type < 12 then .integer
    else if type % 2 = 0 then .blob
    else
      match String.fromUTF8? s.bytes with
      | some value => .text value
      | none => .brokenText (textBreak s.bytes.toList)

/-- A text. -/
def text? (s : Stored) : Option String :=
  match s.cell with
  | .text value => some value
  | _ => none

/-- A number that is not negative. -/
def nat? (s : Stored) : Option Nat :=
  number? s.bytes 0 s.bytes.size

end Stored

/-! ## Tables -/

/-- Cuts a text at the commas outside of parentheses. -/
def commaPieces : (depth : Nat) → List Char → List (List Char)
  | _, [] => [[]]
  | depth, c :: rest =>
    if c = ',' ∧ depth = 0 then [] :: commaPieces 0 rest
    else if c = '(' then consHead c (commaPieces (depth + 1) rest)
    else if c = ')' then consHead c (commaPieces (depth - 1) rest)
    else consHead c (commaPieces depth rest)

/-- The name that the definition of a column begins with. -/
def definedName (definition : List Char) : String :=
  let isQuote := fun c => c = '"' ∨ c = '\x60' ∨ c = '[' ∨ c = ']'
  match trimChars definition with
  | c :: rest =>
    if isQuote c then String.ofList (rest.takeWhile fun c => !isQuote c)
    else String.ofList ((c :: rest).takeWhile fun c => !isBlank c)
  | [] => ""

/-- The names of the columns in the statement that makes a table. -/
def columnsOf (statement : String) : List String :=
  let inside := (statement.toList.dropWhile (· ≠ '(')).drop 1
  let inside := (inside.reverse.dropWhile (· ≠ ')')).drop 1
  (commaPieces 0 inside.reverse).map fun d => asciiLowercase (definedName d)

/-- The first page of the table of links, and the names of its columns. -/
def linkTable? (p : Pages) : Option (Nat × List String) := do
  (← p.records? 1).findSome? fun record => do
    match ← values? record with
    | [type, name, _, page, statement] =>
      if (← type.text?) = "table" ∧ asciiLowercase (← name.text?) = "join_links" then
        return (← page.nat?, columnsOf (← statement.text?))
      else none
    | _ => none

/-- A row with the values of some columns; a value that is missing at the end is null. -/
def storedLink (columns : List String) (cells : List Cell) : StoredLink :=
  let cell (c : LinkColumn) := ((columns.idxOf? c.name).bind (cells[·]?)).getD .null
  { scope := cell .scope
    leftTable := cell .leftTable
    rightTable := cell .rightTable
    leftColumns := cell .leftColumns
    rightColumns := cell .rightColumns }

/-- The columns that a link is made of. -/
def linkColumns : List LinkColumn :=
  [.leftTable, .rightTable, .leftColumns, .rightColumns]

/-- The rows of the table of links in the bytes of a database. -/
def storedLinks? (bytes : ByteArray) : Option (List StoredLink) := do
  let p ← Pages.ofBytes? bytes
  let (page, columns) ← linkTable? p
  if !linkColumns.all (columns.contains ·.name) then none
  (← p.records? page).mapM fun record => do
    return storedLink columns ((← values? record).map (·.cell))

end Joinery.DatabaseFile
