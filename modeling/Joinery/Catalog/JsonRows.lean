import Joinery.Catalog.Basic

/-!
# Catalogs as JSON texts

A JSON text holds a list of links. A list of columns is a list of texts or one text in which a
delimiter separates the columns. Every field of a link has three names.
-/

namespace Joinery

open Json

/-- A list of columns as it is written. -/
inductive WrittenColumns
  | delimited (text : String)
  | listed (columns : List String)
  deriving DecidableEq

/-- The columns of a list. -/
def WrittenColumns.columns (delimiter : String) : WrittenColumns → List String
  | delimited text => columnList text delimiter
  | listed columns => columnNames columns

/-- The text that a document is. -/
def Json.Document.text? : Document → Option String
  | .scalar (.ok (.text value)) _ => some value
  | _ => none

/-- The list of columns that a document is. -/
def asWrittenColumns? : Document → Option WrittenColumns
  | .arr items _ => (items.mapM Document.text?).map WrittenColumns.listed
  | d => d.text?.map WrittenColumns.delimited

/-- Reads a list of columns. All of it is read before it is known which way it is written, inside a
list and an object or list. -/
def writtenColumnsReader : Reader WrittenColumns := fun d => do
  proceed (faultWithin (maxLevels - 2) d)
  match asWrittenColumns? d with
  | some columns => .ok columns
  | none => .error (.noVariant "ColumnList")

/-- A link as it is written. -/
structure LinkEntry where
  leftTable : String
  rightTable : String
  leftColumns : WrittenColumns
  rightColumns : WrittenColumns
  deriving DecidableEq

/-- The fields of a link that were read so far. -/
structure PartialLinkEntry where
  leftTable : Option String := none
  rightTable : Option String := none
  leftColumns : Option WrittenColumns := none
  rightColumns : Option WrittenColumns := none

/-- How a link is read. -/
def LinkEntry.record : Record PartialLinkEntry LinkEntry where
  name := "LinkRow"
  empty := { }
  fields := [
    { name := "left_table"
      aliases := ["leftTable", "lefttablename"]
      isRead := (·.leftTable.isSome)
      read := fun d s => do return { s with leftTable := some (← text d) } },
    { name := "right_table"
      aliases := ["rightTable", "righttablename"]
      isRead := (·.rightTable.isSome)
      read := fun d s => do return { s with rightTable := some (← text d) } },
    { name := "left_columns"
      aliases := ["leftColumns", "leftcolumnnames"]
      isRead := (·.leftColumns.isSome)
      read := fun d s => do return { s with leftColumns := some (← writtenColumnsReader d) } },
    { name := "right_columns"
      aliases := ["rightColumns", "rightcolumnnames"]
      isRead := (·.rightColumns.isSome)
      read := fun d s => do return { s with rightColumns := some (← writtenColumnsReader d) } }]
  complete s :=
    match s.leftTable, s.rightTable, s.leftColumns, s.rightColumns with
    | none, _, _, _ => .error "left_table"
    | some _, none, _, _ => .error "right_table"
    | some _, some _, none, _ => .error "left_columns"
    | some _, some _, some _, none => .error "right_columns"
    | some leftTable, some rightTable, some leftColumns, some rightColumns =>
      .ok ⟨leftTable, rightTable, leftColumns, rightColumns⟩

/-- The link that a row stands for. -/
def LinkEntry.link (delimiter : String) (r : LinkEntry) : Link where
  leftTable := Text.trim r.leftTable
  rightTable := Text.trim r.rightTable
  leftColumns := r.leftColumns.columns delimiter
  rightColumns := r.rightColumns.columns delimiter

/-- The links of a JSON text. -/
def linksOfJson (delimiter source : String) : Except CatalogError (List Link) :=
  match ofText (list LinkEntry.record.read) source with
  | .ok rows => .ok (rows.map (·.link delimiter))
  | .error e => .error (.json e)

end Joinery
