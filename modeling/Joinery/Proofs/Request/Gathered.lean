import Joinery.Proofs.Request.Grown

/-!
# What a request gathers

A request whose entries all list columns selects these columns and no others (`Gathers`): its tables are
those of the entries and of the filter, each where it comes up first, each table shows the columns that are
listed for it, and the columns of the result are the names under which they are shown. A request in which
an entry lacks something has no selection, and its error is the fault of the first such entry
(`FirstFault`). The theorem `ofRequest_gathers` puts the two together.
-/

namespace Joinery

open Text

/-! ## Entries that lack something -/

/-- An entry has no table, no known operator or no column. -/
def QueryRequest.Lacks (r : QueryRequest) : Prop :=
  (∃ entry ∈ r.dimensionData,
    trim entry.table = "" ∨ splitColumns (trim entry.table) entry.columns = []) ∨
  ∃ entry ∈ r.measureData, trim entry.table = "" ∨
    (∃ operator, Sql.Aggregate.ofName entry.operator = .error operator) ∨
      splitColumns (trim entry.table) entry.columns = []

/-- What the first entry lacks that lacks something. All dimensions come before the measures. -/
inductive QueryRequest.FirstFault (r : QueryRequest) (e : RequestError) : Prop
  | dimension {before after : List DimensionEntry} {entry : DimensionEntry}
      (stands : r.dimensionData = before ++ entry :: after)
      (earlier : ∀ b ∈ before, ∀ e', ¬ b.Fault e') (fault : entry.Fault e) : FirstFault r e
  | measure {before after : List MeasureEntry} {entry : MeasureEntry}
      (dimensions : ∀ d ∈ r.dimensionData, ∀ e', ¬ d.Fault e')
      (stands : r.measureData = before ++ entry :: after)
      (earlier : ∀ b ∈ before, ∀ e', ¬ b.Fault e') (fault : entry.Fault e) : FirstFault r e

theorem DimensionEntry.reads_iff {s : DimensionEntry} :
    (∃ columns, s.columnsOf = .ok columns) ↔ ∀ e, ¬ s.Fault e := by
  simp only [exists_eq_ok_iff, ne_eq, DimensionEntry.columnsOf_eq_error_iff]

theorem MeasureEntry.reads_iff {s : MeasureEntry} :
    (∃ columns, s.columnsOf = .ok columns) ↔ ∀ e, ¬ s.Fault e := by
  simp only [exists_eq_ok_iff, ne_eq, MeasureEntry.columnsOf_eq_error_iff]

namespace Selection

variable {r : QueryRequest} {filter : Option FilterExpr} {s : Selection} {e : RequestError}

theorem ofRequest_eq_error_iff : ofRequest r filter = .error e ↔ r.FirstFault e := by
  simp only [ofRequest, bind_eq_error_iff, mapM_eq_error_iff, DimensionEntry.reads_iff,
    MeasureEntry.reads_iff, DimensionEntry.columnsOf_eq_error_iff, MeasureEntry.columnsOf_eq_error_iff]
  constructor
  · rintro (⟨before, entry, after, stands, earlier, fault⟩ | ⟨dimensions, read, later⟩)
    · exact .dimension stands earlier fault
    · rcases later with ⟨before, entry, after, stands, earlier, fault⟩ | ⟨_, _, impossible⟩
      · refine .measure (fun d mem => DimensionEntry.reads_iff.1 ?_) stands earlier fault
        obtain ⟨columns, -, read_d⟩ := exists_of_mem_of_mapM read mem
        exact ⟨columns, read_d⟩
      · cases impossible
  · rintro (⟨stands, earlier, fault⟩ | ⟨dimensions, stands, earlier, fault⟩)
    · exact .inl ⟨_, _, _, stands, earlier, fault⟩
    · obtain ⟨columns, read⟩ :=
        exists_mapM_eq_ok fun d mem => DimensionEntry.reads_iff.2 (dimensions d mem)
      exact .inr ⟨columns, read, .inl ⟨_, _, _, stands, earlier, fault⟩⟩

theorem fails_iff_lacks : (∃ e, ofRequest r filter = .error e) ↔ r.Lacks := by
  simp only [QueryRequest.Lacks, ← DimensionEntry.exists_fault_iff, ← MeasureEntry.exists_fault_iff]
  constructor
  · rintro ⟨e, failed⟩
    rcases ofRequest_eq_error_iff.1 failed with ⟨stands, -, fault⟩ | ⟨-, stands, -, fault⟩
    · exact .inl ⟨_, by simp [stands], e, fault⟩
    · exact .inr ⟨_, by simp [stands], e, fault⟩
  · intro lacks
    cases selected : ofRequest r filter with
    | error e => exact ⟨e, rfl⟩
    | ok s =>
      obtain ⟨dimensions, measures, hd, hm, -⟩ := ofRequest_eq_ok_iff.1 selected
      rcases lacks with ⟨entry, mem, e, fault⟩ | ⟨entry, mem, e, fault⟩
      · obtain ⟨columns, -, read⟩ := exists_of_mem_of_mapM hd mem
        exact absurd fault (DimensionEntry.reads_iff.1 ⟨columns, read⟩ e)
      · obtain ⟨columns, -, read⟩ := exists_of_mem_of_mapM hm mem
        exact absurd fault (MeasureEntry.reads_iff.1 ⟨columns, read⟩ e)

/-! ## Requests whose entries list columns -/

/-- Each table shows the columns that are listed for it, and the result has a column for each name of a
column, dimensions before measures. -/
structure Shows (s : Selection) (dimensions : List (String × Dimension))
    (measures : List (String × Measure)) (filterColumns : List (String × String)) : Prop where
  dimensions_eq : ∀ p ∈ s.tables, p.dimensions = ofTable p.table dimensions
  measures_eq : ∀ p ∈ s.tables, p.measures = ofTable p.table measures
  filterColumns_eq : ∀ p ∈ s.tables, p.filterColumns = (ofTable p.table filterColumns).eraseDups
  outputs_eq : s.outputs = (dimensions.map (fun c => OutputColumn.mk c.1 c.2.aliasName) ++
    measures.map fun c => OutputColumn.mk c.1 c.2.aliasName).eraseDups

/-- A selection has the tables of a request and its filter, and shows what the entries list. -/
structure Gathers (s : Selection) (r : QueryRequest) (filter : Option FilterExpr) : Prop where
  requiredTables_eq :
    s.requiredTables = (r.namedTables ++ (filterReads filter).map (·.1)).eraseDups
  nodup : s.requiredTables.Nodup
  shows : ∃ dimensions measures, List.Forall₂ DimensionEntry.Lists r.dimensionData dimensions ∧
    List.Forall₂ MeasureEntry.Lists r.measureData measures ∧
    s.Shows dimensions.flatten measures.flatten (filterReads filter)
  mem_outputs_iff : ∀ c, c ∈ s.outputs ↔ ∃ p ∈ s.tables, p.table = c.table ∧
    ((∃ d ∈ p.dimensions, d.aliasName = c.aliasName) ∨ ∃ m ∈ p.measures, m.aliasName = c.aliasName)

theorem shows_collect (dimensions : List (String × Dimension)) (measures : List (String × Measure))
    (filterColumns : List (String × String)) :
    (collect dimensions measures filterColumns).Shows dimensions measures filterColumns := by
  refine ⟨?_, ?_, ?_, rfl⟩ <;>
  · intro p mem
    obtain ⟨table, -, rfl⟩ := List.mem_map.1 mem
    rfl

/-- A table comes up with its first column, and every entry has one. -/
theorem eraseDups_tables_flatten {α β : Type} {table : α → String} {entries : List α}
    {columns : List (List (String × β))}
    (listed : List.Forall₂ (fun a cs => cs ≠ [] ∧ ∀ c ∈ cs, c.1 = table a) entries columns) :
    (columns.flatten.map (·.1)).eraseDups = (entries.map table).eraseDups := by
  induction listed with
  | nil => rfl
  | @cons a cs entries columns first _ ih =>
    obtain ⟨ne, own⟩ := first
    have table_once : (cs.map (·.1)).eraseDups = [table a] :=
      eraseDups_of_forall_eq (mt List.map_eq_nil_iff.1 ne) (List.forall_mem_map.2 own)
    rw [List.flatten_cons, List.map_append, List.map_cons, ← List.singleton_append (l := entries.map table)]
    exact eraseDups_append_congr table_once ih

/-- What some table shows is listed for the table. -/
theorem exists_shown_iff {dimensions : List (String × Dimension)} {measures : List (String × Measure)}
    {filterColumns : List (String × String)} {table : String} {P : Dimension → Prop} {Q : Measure → Prop} :
    (∃ p ∈ (collect dimensions measures filterColumns).tables, p.table = table ∧
        ((∃ d ∈ p.dimensions, P d) ∨ ∃ m ∈ p.measures, Q m)) ↔
      (∃ d, (table, d) ∈ dimensions ∧ P d) ∨ ∃ m, (table, m) ∈ measures ∧ Q m := by
  have shows := shows_collect dimensions measures filterColumns
  have found : table ∈ dimensions.map (·.1) ++ measures.map (·.1) ++ filterColumns.map (·.1) →
      ∃ p ∈ (collect dimensions measures filterColumns).tables, p.table = table :=
    fun named => List.mem_map.1 (mem_requiredTables_collect.2 named)
  constructor
  · rintro ⟨p, mem, rfl, ⟨d, shown, holds⟩ | ⟨m, shown, holds⟩⟩
    · exact .inl ⟨d, mem_ofTable.1 (shows.dimensions_eq p mem ▸ shown), holds⟩
    · exact .inr ⟨m, mem_ofTable.1 (shows.measures_eq p mem ▸ shown), holds⟩
  · rintro (⟨d, listed, holds⟩ | ⟨m, listed, holds⟩)
    · have named := List.mem_map_of_mem (f := (·.1)) listed
      obtain ⟨p, mem, rfl⟩ := found (List.mem_append_left _ (List.mem_append_left _ named))
      have shown : d ∈ p.dimensions := shows.dimensions_eq p mem ▸ mem_ofTable.2 listed
      exact ⟨p, mem, rfl, .inl ⟨d, shown, holds⟩⟩
    · have named := List.mem_map_of_mem (f := (·.1)) listed
      obtain ⟨p, mem, rfl⟩ := found (List.mem_append_left _ (List.mem_append_right _ named))
      have shown : m ∈ p.measures := shows.measures_eq p mem ▸ mem_ofTable.2 listed
      exact ⟨p, mem, rfl, .inr ⟨m, shown, holds⟩⟩

theorem mem_outputs_collect_iff {dimensions : List (String × Dimension)}
    {measures : List (String × Measure)} {filterColumns : List (String × String)} {c : OutputColumn} :
    c ∈ (collect dimensions measures filterColumns).outputs ↔
      ∃ p ∈ (collect dimensions measures filterColumns).tables, p.table = c.table ∧
        ((∃ d ∈ p.dimensions, d.aliasName = c.aliasName) ∨
          ∃ m ∈ p.measures, m.aliasName = c.aliasName) := by
  obtain ⟨table, aliasName⟩ := c
  rw [exists_shown_iff, (shows_collect dimensions measures filterColumns).outputs_eq, List.mem_eraseDups,
    List.mem_append, List.mem_map, List.mem_map]
  simp

theorem gathers_of_ofRequest (selected : ofRequest r filter = .ok s) : s.Gathers r filter := by
  obtain ⟨dimensions, measures, hd, hm, rfl⟩ := ofRequest_eq_ok_iff.1 selected
  have dimensions_listed : List.Forall₂ DimensionEntry.Lists r.dimensionData dimensions :=
    (mapM_eq_ok_iff.1 hd).imp fun _ _ => DimensionEntry.columnsOf_eq_ok_iff.1
  have measures_listed : List.Forall₂ MeasureEntry.Lists r.measureData measures :=
    (mapM_eq_ok_iff.1 hm).imp fun _ _ => MeasureEntry.columnsOf_eq_ok_iff.1
  refine ⟨?_, nodup_requiredTables selected, ⟨dimensions, measures, dimensions_listed, measures_listed,
    shows_collect _ _ _⟩, fun c => mem_outputs_collect_iff⟩
  rw [requiredTables_collect, QueryRequest.namedTables, List.map_append, List.map_map, List.map_map]
  refine eraseDups_append_congr (eraseDups_append_congr ?_ ?_) rfl
  · exact eraseDups_tables_flatten (dimensions_listed.imp fun _ _ lists =>
      ⟨lists.ne_nil, fun _ => lists.table_of_mem⟩)
  · exact eraseDups_tables_flatten (measures_listed.imp fun _ _ lists =>
      ⟨lists.ne_nil, fun _ => lists.table_of_mem⟩)

/-- A selection gathers all columns of a request, and there is none where an entry lacks something. -/
theorem ofRequest_gathers (r : QueryRequest) (filter : Option FilterExpr) :
    ofRequest r filter = grown r filter ∧
      (∀ s, ofRequest r filter = .ok s → s.Gathers r filter) ∧
      ((∃ e, ofRequest r filter = .error e) ↔ r.Lacks) ∧
      ∀ e, ofRequest r filter = .error e ↔ r.FirstFault e :=
  ⟨ofRequest_eq_grown r filter, fun _ => gathers_of_ofRequest, fails_iff_lacks,
    fun _ => ofRequest_eq_error_iff⟩

/-- The tables of the entries and of the filter take turns, and the operator is looked at before the
columns. -/
theorem pupils_gather :
    let r : QueryRequest :=
      { dimensionData := [⟨" class ", "title", ""⟩, ⟨"student", "name$& student.class_id", "Pupil"⟩,
          ⟨"class", "class.year", ""⟩]
        measureData := [⟨"grade", "points", "AVG", ""⟩, ⟨"student", "id", "count", ""⟩] }
    let filter : FilterExpr := ⟨"exam.day > student.born", [⟨"exam", "day"⟩, ⟨"student", "born"⟩]⟩
    (∃ s, ofRequest r (some filter) = .ok s ∧ s.requiredTables = ["class", "student", "grade", "exam"] ∧
      s.Gathers r (some filter)) ∧
    ofRequest { r with measureData := ⟨"grade", " $& ", "Median", ""⟩ :: r.measureData } none =
      .error (.unknownOperator "grade" "median") := by
  intro r filter
  have tables : (ofRequest r (some filter)).map (·.requiredTables) =
      .ok ["class", "student", "grade", "exam"] := by decide +kernel
  obtain ⟨s, selected, tables⟩ := map_eq_ok_iff.1 tables
  have complete : ∀ d ∈ r.dimensionData,
      ¬ (trim d.table = "" ∨ splitColumns (trim d.table) d.columns = []) := by decide +kernel
  have fine : ∀ d ∈ r.dimensionData, ∀ e, ¬ d.Fault e := fun d mem e fault =>
    complete d mem (DimensionEntry.exists_fault_iff.1 ⟨e, fault⟩)
  have stands : (⟨"grade", " $& ", "Median", ""⟩ :: r.measureData : List MeasureEntry) =
      [] ++ ⟨"grade", " $& ", "Median", ""⟩ :: r.measureData := rfl
  have unknown : Sql.Aggregate.ofName "Median" = .error "median" := by decide +kernel
  have named : trim "grade" = "grade" := by decide
  have fault : MeasureEntry.Fault ⟨"grade", " $& ", "Median", ""⟩ (.unknownOperator "grade" "median") :=
    named ▸ .unknownOperator (by decide) unknown
  exact ⟨⟨s, selected, tables, (ofRequest_gathers r (some filter)).2.1 s selected⟩,
    ((ofRequest_gathers _ none).2.2.2 _).2 (.measure fine stands nofun fault)⟩

end Selection

end Joinery
