import Joinery.Json.Read
import Joinery.Request.Basic

/-!
# Reading requests

`QueryRequest.ofJson` reads a request from a text. Fields with a usual value can be missing.
-/

namespace Joinery

open Json

/-- The fields of a dimension that were read so far. -/
structure PartialDimension where
  table : Option String := none
  columns : Option String := none
  aliasName : Option String := none

/-- How a dimension is read. -/
def DimensionEntry.record : Record PartialDimension DimensionEntry where
  name := "DimensionSpec"
  empty := { }
  fields := [
    { name := "table"
      isRead := (·.table.isSome)
      read := fun d s => do return { s with table := some (← text d) } },
    { name := "columns"
      isRead := (·.columns.isSome)
      read := fun d s => do return { s with columns := some (← text d) } },
    { name := "aliasName"
      isRead := (·.aliasName.isSome)
      read := fun d s => do return { s with aliasName := some (← text d) } }]
  complete s :=
    match s.table, s.columns with
    | none, _ => .error "table"
    | some _, none => .error "columns"
    | some table, some columns => .ok ⟨table, columns, s.aliasName.getD ""⟩

/-- The fields of a measure that were read so far. -/
structure PartialMeasure where
  table : Option String := none
  columns : Option String := none
  operator : Option String := none
  aliasName : Option String := none

/-- How a measure is read. The operator has another name. -/
def MeasureEntry.record : Record PartialMeasure MeasureEntry where
  name := "MeasureSpec"
  empty := { }
  fields := [
    { name := "table"
      isRead := (·.table.isSome)
      read := fun d s => do return { s with table := some (← text d) } },
    { name := "columns"
      isRead := (·.columns.isSome)
      read := fun d s => do return { s with columns := some (← text d) } },
    { name := "operator"
      aliases := ["operator2"]
      isRead := (·.operator.isSome)
      read := fun d s => do return { s with operator := some (← text d) } },
    { name := "aliasName"
      isRead := (·.aliasName.isSome)
      read := fun d s => do return { s with aliasName := some (← text d) } }]
  complete s :=
    match s.table, s.columns, s.operator with
    | none, _, _ => .error "table"
    | some _, none, _ => .error "columns"
    | some _, some _, none => .error "operator"
    | some table, some columns, some operator =>
      .ok ⟨table, columns, operator, s.aliasName.getD ""⟩

/-- The fields of a request that were read so far. -/
structure PartialRequest where
  schemaName : Option (Option String) := none
  dimensionData : Option (List DimensionEntry) := none
  measureData : Option (List MeasureEntry) := none
  conditionData : Option String := none

/-- How a request is read. None of its fields is needed. -/
def QueryRequest.record : Record PartialRequest QueryRequest where
  name := "QueryRequest"
  empty := { }
  fields := [
    { name := "schemaName"
      isRead := (·.schemaName.isSome)
      read := fun d s => do return { s with schemaName := some (← optional text d) } },
    { name := "dimensionData"
      isRead := (·.dimensionData.isSome)
      read := fun d s => do
        return { s with dimensionData := some (← list DimensionEntry.record.read d) } },
    { name := "measureData"
      isRead := (·.measureData.isSome)
      read := fun d s => do
        return { s with measureData := some (← list MeasureEntry.record.read d) } },
    { name := "conditionData"
      isRead := (·.conditionData.isSome)
      read := fun d s => do return { s with conditionData := some (← text d) } }]
  complete s :=
    .ok ⟨s.schemaName.getD none, s.dimensionData.getD [], s.measureData.getD [],
      s.conditionData.getD ""⟩

/-- Reads a request from a text. -/
def QueryRequest.ofJson (source : String) : Except ReadError QueryRequest :=
  ofText QueryRequest.record.read source

end Joinery
