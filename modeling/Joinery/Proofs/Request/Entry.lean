import Joinery.Request.Selection
import Joinery.Proofs.Outcome
import Joinery.Proofs.Text.Blank

/-!
# One entry of a request

An entry that has a table, a column and, if it is a measure, a known operator lists columns (`Lists`). Of
what an entry lacks, the first in that order is its fault (`Fault`), with the operator looked at before the
columns. The lemmas `columnsOf_eq_ok_iff` and `columnsOf_eq_error_iff` say that reading an entry gives the
one or the other.
-/

namespace Joinery

open Text

section

variable {kind : EntryKind} {name table columns : String} {names : List String} {e : RequestError}

theorem entryTable_eq_ok_iff :
    entryTable kind name = .ok table ↔ trim name ≠ "" ∧ trim name = table := by
  unfold entryTable
  dsimp only
  split_ifs with blank <;> simp [blank]

theorem entryTable_eq_error_iff :
    entryTable kind name = .error e ↔ trim name = "" ∧ .missingTable kind = e := by
  unfold entryTable
  dsimp only
  split_ifs with blank <;> simp [blank]

theorem entryColumns_eq_ok_iff : entryColumns kind table columns = .ok names ↔
    splitColumns table columns ≠ [] ∧ splitColumns table columns = names := by
  unfold entryColumns
  split
  · next none_left => simp [none_left]
  · next some_column => simpa using fun _ => some_column

theorem entryColumns_eq_error_iff : entryColumns kind table columns = .error e ↔
    splitColumns table columns = [] ∧ .emptyColumns kind table = e := by
  unfold entryColumns
  split
  · next none_left => simp [none_left]
  · next some_column => simpa using fun none_left => (some_column none_left).elim

end

/-! ## Columns to group by -/

namespace DimensionEntry

/-- What a column of an entry is shown as. -/
def shown (s : DimensionEntry) (column : String) : Dimension :=
  ⟨column, aliasFor s.aliasName column (1 < (splitColumns (trim s.table) s.columns).length) column⟩

/-- An entry has a table and a column, and lists columns of the table. -/
structure Lists (s : DimensionEntry) (columns : List (String × Dimension)) : Prop where
  named : trim s.table ≠ ""
  some_column : splitColumns (trim s.table) s.columns ≠ []
  columns_eq :
    columns = (splitColumns (trim s.table) s.columns).map fun column => (trim s.table, s.shown column)

/-- What an entry lacks. -/
inductive Fault (s : DimensionEntry) : RequestError → Prop
  | missingTable (blank : trim s.table = "") : Fault s (.missingTable .dimension)
  | emptyColumns (named : trim s.table ≠ "")
      (no_column : splitColumns (trim s.table) s.columns = []) :
      Fault s (.emptyColumns .dimension (trim s.table))

variable {s : DimensionEntry} {columns : List (String × Dimension)} {e : RequestError}

theorem columnsOf_eq_ok_iff : s.columnsOf = .ok columns ↔ s.Lists columns := by
  simp only [columnsOf, bind_eq_ok_iff, entryTable_eq_ok_iff, entryColumns_eq_ok_iff]
  constructor
  · rintro ⟨_, ⟨named, rfl⟩, _, ⟨some_column, rfl⟩, eq⟩
    exact ⟨named, some_column, (Except.ok.inj eq).symm⟩
  · rintro ⟨named, some_column, rfl⟩
    exact ⟨_, ⟨named, rfl⟩, _, ⟨some_column, rfl⟩, rfl⟩

theorem columnsOf_eq_error_iff : s.columnsOf = .error e ↔ s.Fault e := by
  simp only [columnsOf, bind_eq_error_iff, entryTable_eq_ok_iff, entryTable_eq_error_iff,
    entryColumns_eq_error_iff]
  constructor
  · rintro (⟨blank, rfl⟩ | ⟨_, ⟨named, rfl⟩, ⟨no_column, rfl⟩ | ⟨_, _, impossible⟩⟩)
    · exact .missingTable blank
    · exact .emptyColumns named no_column
    · cases impossible
  · rintro (blank | ⟨named, no_column⟩)
    · exact .inl ⟨blank, rfl⟩
    · exact .inr ⟨_, ⟨named, rfl⟩, .inl ⟨no_column, rfl⟩⟩

theorem exists_fault_iff :
    (∃ e, s.Fault e) ↔ trim s.table = "" ∨ splitColumns (trim s.table) s.columns = [] := by
  constructor
  · rintro ⟨e, blank | ⟨-, no_column⟩⟩
    · exact .inl blank
    · exact .inr no_column
  · intro lacking
    by_cases blank : trim s.table = ""
    · exact ⟨_, .missingTable blank⟩
    · exact ⟨_, .emptyColumns blank (lacking.resolve_left blank)⟩

theorem Lists.ne_nil (h : s.Lists columns) : columns ≠ [] := by
  rw [h.columns_eq, ne_eq, List.map_eq_nil_iff]
  exact h.some_column

theorem Lists.table_of_mem (h : s.Lists columns) {c : String × Dimension} (mem : c ∈ columns) :
    c.1 = trim s.table := by
  rw [h.columns_eq] at mem
  obtain ⟨name, -, rfl⟩ := List.mem_map.1 mem
  rfl

end DimensionEntry

/-! ## Columns to aggregate -/

namespace MeasureEntry

/-- What a column of an entry is shown as. -/
def shown (s : MeasureEntry) (op : Sql.Aggregate) (column : String) : Measure :=
  ⟨column, op, aliasFor s.aliasName column (1 < (splitColumns (trim s.table) s.columns).length)
    (op.name ++ "_" ++ column)⟩

/-- An entry has a table, an operator and a column, and lists columns of the table. -/
structure Lists (s : MeasureEntry) (columns : List (String × Measure)) : Prop where
  named : trim s.table ≠ ""
  some_column : splitColumns (trim s.table) s.columns ≠ []
  columns_eq : ∃ op, Sql.Aggregate.ofName s.operator = .ok op ∧ columns =
    (splitColumns (trim s.table) s.columns).map fun column => (trim s.table, s.shown op column)

/-- What an entry lacks. -/
inductive Fault (s : MeasureEntry) : RequestError → Prop
  | missingTable (blank : trim s.table = "") : Fault s (.missingTable .measure)
  | unknownOperator {operator : String} (named : trim s.table ≠ "")
      (unknown : Sql.Aggregate.ofName s.operator = .error operator) :
      Fault s (.unknownOperator (trim s.table) operator)
  | emptyColumns {op : Sql.Aggregate} (named : trim s.table ≠ "")
      (known : Sql.Aggregate.ofName s.operator = .ok op)
      (no_column : splitColumns (trim s.table) s.columns = []) :
      Fault s (.emptyColumns .measure (trim s.table))

variable {s : MeasureEntry} {columns : List (String × Measure)} {e : RequestError}

theorem columnsOf_eq_ok_iff : s.columnsOf = .ok columns ↔ s.Lists columns := by
  simp only [columnsOf, bind_eq_ok_iff, entryTable_eq_ok_iff, mapError_eq_ok_iff, entryColumns_eq_ok_iff]
  constructor
  · rintro ⟨_, ⟨named, rfl⟩, op, known, _, ⟨some_column, rfl⟩, eq⟩
    exact ⟨named, some_column, op, known, (Except.ok.inj eq).symm⟩
  · rintro ⟨named, some_column, op, known, rfl⟩
    exact ⟨_, ⟨named, rfl⟩, op, known, _, ⟨some_column, rfl⟩, rfl⟩

theorem columnsOf_eq_error_iff : s.columnsOf = .error e ↔ s.Fault e := by
  simp only [columnsOf, bind_eq_error_iff, entryTable_eq_ok_iff, entryTable_eq_error_iff,
    mapError_eq_ok_iff, mapError_eq_error_iff, entryColumns_eq_error_iff]
  constructor
  · rintro (⟨blank, rfl⟩ | ⟨_, ⟨named, rfl⟩, ⟨operator, unknown, rfl⟩ |
      ⟨op, known, ⟨no_column, rfl⟩ | ⟨_, _, impossible⟩⟩⟩)
    · exact .missingTable blank
    · exact .unknownOperator named unknown
    · exact .emptyColumns named known no_column
    · cases impossible
  · rintro (blank | ⟨named, unknown⟩ | ⟨named, known, no_column⟩)
    · exact .inl ⟨blank, rfl⟩
    · exact .inr ⟨_, ⟨named, rfl⟩, .inl ⟨_, unknown, rfl⟩⟩
    · exact .inr ⟨_, ⟨named, rfl⟩, .inr ⟨_, known, .inl ⟨no_column, rfl⟩⟩⟩

theorem exists_fault_iff : (∃ e, s.Fault e) ↔ trim s.table = "" ∨
    (∃ operator, Sql.Aggregate.ofName s.operator = .error operator) ∨
      splitColumns (trim s.table) s.columns = [] := by
  constructor
  · rintro ⟨e, blank | ⟨-, unknown⟩ | ⟨-, -, no_column⟩⟩
    · exact .inl blank
    · exact .inr (.inl ⟨_, unknown⟩)
    · exact .inr (.inr no_column)
  · intro lacking
    by_cases blank : trim s.table = ""
    · exact ⟨_, .missingTable blank⟩
    · cases known : Sql.Aggregate.ofName s.operator with
      | error operator => exact ⟨_, .unknownOperator blank known⟩
      | ok op =>
        have no_column := (lacking.resolve_left blank).resolve_left (by simp [known])
        exact ⟨_, .emptyColumns blank known no_column⟩

theorem Lists.ne_nil (h : s.Lists columns) : columns ≠ [] := by
  obtain ⟨op, -, eq⟩ := h.columns_eq
  rw [eq, ne_eq, List.map_eq_nil_iff]
  exact h.some_column

theorem Lists.table_of_mem (h : s.Lists columns) {c : String × Measure} (mem : c ∈ columns) :
    c.1 = trim s.table := by
  obtain ⟨op, -, eq⟩ := h.columns_eq
  rw [eq] at mem
  obtain ⟨name, -, rfl⟩ := List.mem_map.1 mem
  rfl

end MeasureEntry

end Joinery
