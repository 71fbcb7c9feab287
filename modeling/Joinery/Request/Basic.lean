import Joinery.Json.Value
import Joinery.Text.Blank

/-!
# Requests

What a caller asks for: columns to group by, columns to aggregate, and a filter, all of tables that
the caller need not know how to join.
-/

namespace Joinery

open Text Json

/-- Columns of a table to group by. -/
structure DimensionEntry where
  table : String
  /-- One column or several, with a separator between them. -/
  columns : String
  /-- What the columns are called in the result; blank for their own names. -/
  aliasName : String := ""
  deriving DecidableEq

/-- Columns of a table to aggregate. -/
structure MeasureEntry where
  table : String
  /-- One column or several, with a separator between them. -/
  columns : String
  operator : String
  /-- What the columns are called in the result; blank for names made from the operator's. -/
  aliasName : String := ""
  deriving DecidableEq

/-- A request. -/
structure QueryRequest where
  /-- The schema of all tables. -/
  schemaName : Option String := none
  dimensionData : List DimensionEntry := []
  measureData : List MeasureEntry := []
  /-- An expression over columns of tables, or a blank text. -/
  conditionData : String := ""
  deriving DecidableEq, Inhabited

namespace QueryRequest

/-- The schema of all tables, unless it is blank. -/
def schema (r : QueryRequest) : Option String :=
  (r.schemaName.map trim).filter (· ≠ "")

end QueryRequest

/-! ## Writing -/

/-- A text, or null. -/
def Json.Value.ofOption (s : Option String) : Value :=
  (s.map Value.text).getD .null

def DimensionEntry.toJson (s : DimensionEntry) : Value :=
  .obj [("table", .text s.table), ("columns", .text s.columns), ("aliasName", .text s.aliasName)]

def MeasureEntry.toJson (s : MeasureEntry) : Value :=
  .obj [("table", .text s.table), ("columns", .text s.columns), ("operator", .text s.operator),
    ("aliasName", .text s.aliasName)]

/-- A request with all its fields. -/
def QueryRequest.toJson (r : QueryRequest) : Value :=
  .obj [("schemaName", .ofOption r.schemaName),
    ("dimensionData", .arr (r.dimensionData.map (·.toJson))),
    ("measureData", .arr (r.measureData.map (·.toJson))),
    ("conditionData", .text r.conditionData)]

end Joinery
