import Joinery.Proofs.EraseDups
import Joinery.Proofs.Request.Entry

/-!
# What a request selects

`ofRequest_eq_ok_iff` takes a selection apart into the columns of each entry. The tables of a selection
come once, and only a request without entries selects no column. `QueryRequest.Asks` says what a request
shows under a name: every column of the result has such a name, and its table selects what is asked for.
-/

namespace Joinery

open Text

/-- The tables that the entries of a request name. -/
def QueryRequest.namedTables (r : QueryRequest) : List String :=
  (r.dimensionData.map (·.table) ++ r.measureData.map (·.table)).map trim

namespace Selection

variable {r : QueryRequest} {filter : Option FilterExpr} {s : Selection}

/-- The columns that a filter reads, each with its table. -/
def filterReads (filter : Option FilterExpr) : List (String × String) :=
  ((filter.map (·.columns)).getD []).map fun c => (c.table, c.column)

theorem ofRequest_eq_ok_iff :
    ofRequest r filter = .ok s ↔ ∃ dimensions measures,
      r.dimensionData.mapM (·.columnsOf) = .ok dimensions ∧
      r.measureData.mapM (·.columnsOf) = .ok measures ∧
      s = collect dimensions.flatten measures.flatten (filterReads filter) := by
  simp only [ofRequest, bind_eq_ok_iff]
  constructor
  · rintro ⟨dimensions, hd, measures, hm, eq⟩
    exact ⟨dimensions, measures, hd, hm, (Except.ok.inj eq).symm⟩
  · rintro ⟨dimensions, measures, hd, hm, rfl⟩
    exact ⟨dimensions, hd, measures, hm, rfl⟩

/-- It does not matter which entry a column comes from. -/
theorem ofRequest_eq (r : QueryRequest) (filter : Option FilterExpr) :
    ofRequest r filter = do
      let dimensions ← (r.dimensionData.mapM DimensionEntry.columnsOf).map List.flatten
      let measures ← (r.measureData.mapM MeasureEntry.columnsOf).map List.flatten
      return collect dimensions measures (filterReads filter) := by
  unfold ofRequest
  cases r.dimensionData.mapM (·.columnsOf) with
  | error e => rfl
  | ok dimensions =>
    cases r.measureData.mapM (·.columnsOf) with
    | error e => rfl
    | ok measures => rfl

theorem requiredTables_collect (dimensions : List (String × Dimension))
    (measures : List (String × Measure)) (filterColumns : List (String × String)) :
    (collect dimensions measures filterColumns).requiredTables =
      (dimensions.map (·.1) ++ measures.map (·.1) ++ filterColumns.map (·.1)).eraseDups := by
  rw [requiredTables, collect, List.map_map]
  exact List.map_id' _

theorem nodup_requiredTables (h : ofRequest r filter = .ok s) : s.requiredTables.Nodup := by
  obtain ⟨dimensions, measures, -, -, rfl⟩ := ofRequest_eq_ok_iff.1 h
  rw [requiredTables_collect]
  exact nodup_eraseDups _

/-! ## Requests without columns -/

/-- A column comes from every entry. -/
theorem eq_nil_of_flatten_eq_nil {α β : Type} {f : α → Except RequestError (List β)} {l : List α}
    {r : List (List β)} (some_column : ∀ a ∈ l, ∀ columns, f a = .ok columns → columns ≠ [])
    (h : l.mapM f = .ok r) (none_left : r.flatten = []) : l = [] := by
  rw [List.eq_nil_iff_forall_not_mem]
  intro a ha
  obtain ⟨columns, mem, found⟩ := exists_of_mem_of_mapM h ha
  exact some_column a ha columns found (List.flatten_eq_nil_iff.1 none_left columns mem)

theorem eq_nil_of_outputs_eq_nil (h : ofRequest r filter = .ok s) (none_left : s.outputs = []) :
    r.dimensionData = [] ∧ r.measureData = [] := by
  obtain ⟨dimensions, measures, hd, hm, rfl⟩ := ofRequest_eq_ok_iff.1 h
  have all : ∀ c, c ∉ dimensions.flatten.map (fun c => OutputColumn.mk c.1 c.2.aliasName) ++
      measures.flatten.map (fun c => OutputColumn.mk c.1 c.2.aliasName) := fun c mem =>
    List.eq_nil_iff_forall_not_mem.1 none_left c (List.mem_eraseDups.2 mem)
  have nil := List.append_eq_nil_iff.1 (List.eq_nil_iff_forall_not_mem.2 all)
  exact ⟨eq_nil_of_flatten_eq_nil (fun _ _ _ read =>
      (DimensionEntry.columnsOf_eq_ok_iff.1 read).ne_nil) hd
      (List.map_eq_nil_iff.1 nil.1),
    eq_nil_of_flatten_eq_nil (fun _ _ _ read =>
      (MeasureEntry.columnsOf_eq_ok_iff.1 read).ne_nil) hm
      (List.map_eq_nil_iff.1 nil.2)⟩

end Selection

/-! ## What is asked for -/

/-- An expression that a request wants to see under a name of a table. -/
inductive QueryRequest.Asks (r : QueryRequest) (table aliasName : String) : Sql.Expr → Prop
  | dimension {entry : DimensionEntry} {columns : List (String × Dimension)} {column : String}
      (mem : entry ∈ r.dimensionData) (read : entry.columnsOf = .ok columns)
      (shown : (table, ⟨column, aliasName⟩) ∈ columns) :
      Asks r table aliasName (.ofTable table column)
  | measure {entry : MeasureEntry} {columns : List (String × Measure)} {column : String}
      {op : Sql.Aggregate} (mem : entry ∈ r.measureData) (read : entry.columnsOf = .ok columns)
      (shown : (table, ⟨column, op, aliasName⟩) ∈ columns) :
      Asks r table aliasName (.aggregate op (.ofTable table column))

namespace Selection

variable {r : QueryRequest} {filter : Option FilterExpr} {s : Selection} {table aliasName : String}

theorem mem_ofTable {α : Type} {columns : List (String × α)} {a : α} :
    a ∈ ofTable table columns ↔ (table, a) ∈ columns := by
  simp [ofTable, List.mem_map, List.mem_filter]

theorem ofTable_eq_nil {α : Type} {columns : List (String × α)}
    (absent : table ∉ columns.map (·.1)) : ofTable table columns = [] := by
  rw [List.eq_nil_iff_forall_not_mem]
  intro a mem
  exact absent (List.mem_map_of_mem (f := (·.1)) (mem_ofTable.1 mem))

/-- What a table shows, be it selected or not. -/
theorem find?_collect (dimensions : List (String × Dimension)) (measures : List (String × Measure))
    (filterColumns : List (String × String)) (table : String) :
    ((collect dimensions measures filterColumns).find? table).getD { table } =
      ⟨table, ofTable table dimensions, ofTable table measures,
        (ofTable table filterColumns).eraseDups⟩ := by
  rw [find?, collect, List.find?_map]
  cases found : List.find? _ _ with
  | some name =>
    have same : name = table := by simpa using List.find?_some found
    rw [same]
    rfl
  | none =>
    have absent := List.find?_eq_none.1 found table
    simp only [List.mem_eraseDups, List.mem_append, Function.comp_apply, decide_true, not_true,
      imp_false, not_or] at absent
    obtain ⟨⟨no_dimension, no_measure⟩, no_filter⟩ := absent
    rw [ofTable_eq_nil no_dimension, ofTable_eq_nil no_measure, ofTable_eq_nil no_filter]
    rfl

/-- What a request asks for, by the columns of its entries. -/
theorem asks_iff {dimensions : List (List (String × Dimension))}
    {measures : List (List (String × Measure))} (hd : r.dimensionData.mapM (·.columnsOf) = .ok dimensions)
    (hm : r.measureData.mapM (·.columnsOf) = .ok measures) {e : Sql.Expr} :
    r.Asks table aliasName e ↔
      (∃ column, (table, ⟨column, aliasName⟩) ∈ dimensions.flatten ∧ e = .ofTable table column) ∨
      ∃ column op, (table, ⟨column, op, aliasName⟩) ∈ measures.flatten ∧
        e = .aggregate op (.ofTable table column) := by
  simp only [mem_flatten_mapM_iff hd, mem_flatten_mapM_iff hm]
  constructor
  · rintro (⟨mem, read, shown⟩ | ⟨mem, read, shown⟩)
    · exact .inl ⟨_, ⟨_, mem, _, read, shown⟩, rfl⟩
    · exact .inr ⟨_, _, ⟨_, mem, _, read, shown⟩, rfl⟩
  · rintro (⟨column, ⟨entry, mem, columns, read, shown⟩, rfl⟩ |
      ⟨column, op, ⟨entry, mem, columns, read, shown⟩, rfl⟩)
    · exact .dimension mem read shown
    · exact .measure mem read shown

/-- Every column of the result is asked for. -/
theorem exists_asks_of_mem_outputs (h : ofRequest r filter = .ok s) {c : OutputColumn}
    (mem : c ∈ s.outputs) : ∃ e, r.Asks c.table c.aliasName e := by
  obtain ⟨dimensions, measures, hd, hm, rfl⟩ := ofRequest_eq_ok_iff.1 h
  rw [collect, List.mem_eraseDups, List.mem_append, List.mem_map, List.mem_map] at mem
  rcases mem with ⟨⟨table, column, aliasName⟩, mem, rfl⟩ | ⟨⟨table, column, op, aliasName⟩, mem, rfl⟩
  · exact ⟨_, (asks_iff hd hm).2 (.inl ⟨column, mem, rfl⟩)⟩
  · exact ⟨_, (asks_iff hd hm).2 (.inr ⟨column, op, mem, rfl⟩)⟩

theorem mem_requiredTables_collect {dimensions : List (String × Dimension)}
    {measures : List (String × Measure)} {filterColumns : List (String × String)} :
    table ∈ (collect dimensions measures filterColumns).requiredTables ↔
      table ∈ dimensions.map (·.1) ++ measures.map (·.1) ++ filterColumns.map (·.1) := by
  rw [requiredTables_collect, List.mem_eraseDups]

/-- A table that shows something has to be joined. -/
theorem mem_requiredTables_of_asks (h : ofRequest r filter = .ok s) {e : Sql.Expr}
    (asks : r.Asks table aliasName e) : table ∈ s.requiredTables := by
  obtain ⟨dimensions, measures, hd, hm, rfl⟩ := ofRequest_eq_ok_iff.1 h
  rw [mem_requiredTables_collect, List.mem_append, List.mem_append]
  rcases (asks_iff hd hm).1 asks with ⟨column, mem, -⟩ | ⟨column, op, mem, -⟩
  · exact .inl (.inl (List.mem_map_of_mem (f := (·.1)) mem))
  · exact .inl (.inr (List.mem_map_of_mem (f := (·.1)) mem))

/-- So does a table that the filter reads. -/
theorem mem_requiredTables_of_filter {f : FilterExpr} (h : ofRequest r (some f) = .ok s)
    {c : FilterColumn} (mem : c ∈ f.columns) : c.table ∈ s.requiredTables := by
  obtain ⟨dimensions, measures, -, -, rfl⟩ := ofRequest_eq_ok_iff.1 h
  rw [mem_requiredTables_collect, List.mem_append]
  have reads : (c.table, c.column) ∈ filterReads (some f) :=
    List.mem_map_of_mem (f := fun c : FilterColumn => (c.table, c.column)) mem
  exact .inr (List.mem_map_of_mem (f := (·.1)) reads)

end Selection

end Joinery
