import Joinery.Proofs.Assembly.Filtered
import Joinery.Proofs.Compile.Stages
import Joinery.Proofs.Filter.Attribution

/-!
# Requests with a filter

The tables of a filter are required behind those of the request that it belongs to
(`requiredTables_of_filter`), so a filter on tables that are there already changes neither the tables nor
the path. All that it does to the statement is what it is for: some derived tables show more columns, and
the rows are filtered by its text (`filter_extends_statement`).
-/

namespace Joinery

open Sql Text

/-! ## Tables that a request names -/

namespace Selection

variable {r : QueryRequest} {filter : Option FilterExpr} {selection : Selection} {table : String}

/-- Every table that is named has to be joined, as every entry has a column. -/
theorem mem_requiredTables_of_named (selected : ofRequest r filter = .ok selection)
    (named : table ∈ r.namedTables) : table ∈ selection.requiredTables := by
  obtain ⟨dimensions, measures, hd, hm, -⟩ := ofRequest_eq_ok_iff.1 selected
  obtain ⟨name, mem, rfl⟩ := List.mem_map.1 named
  rcases List.mem_append.1 mem with mem | mem
  · obtain ⟨entry, entry_mem, rfl⟩ := List.mem_map.1 mem
    obtain ⟨columns, -, read⟩ := exists_of_mem_of_mapM hd entry_mem
    have lists := DimensionEntry.columnsOf_eq_ok_iff.1 read
    obtain ⟨c, shown⟩ := List.exists_mem_of_ne_nil _ lists.ne_nil
    rw [← lists.table_of_mem shown]
    exact mem_requiredTables_of_asks selected (.dimension entry_mem read shown)
  · obtain ⟨entry, entry_mem, rfl⟩ := List.mem_map.1 mem
    obtain ⟨columns, -, read⟩ := exists_of_mem_of_mapM hm entry_mem
    have lists := MeasureEntry.columnsOf_eq_ok_iff.1 read
    obtain ⟨c, shown⟩ := List.exists_mem_of_ne_nil _ lists.ne_nil
    rw [← lists.table_of_mem shown]
    exact mem_requiredTables_of_asks selected (.measure entry_mem read shown)

/-! ## Tables and columns of a filter -/

theorem requiredTables_collect_filter (dimensions : List (String × Dimension))
    (measures : List (String × Measure)) (f : FilterExpr) :
    (collect dimensions measures (filterReads (some f))).requiredTables =
      (collect dimensions measures []).requiredTables ++
        f.tables.filter (· ∉ (collect dimensions measures []).requiredTables) := by
  have tables : (filterReads (some f)).map (·.1) = f.columns.map (·.table) := by
    simp [filterReads, Function.comp_def]
  rw [requiredTables_collect, requiredTables_collect, tables, List.eraseDups_append, List.map_nil,
    List.append_nil, FilterExpr.tables, ← eraseDups_filter]
  congr 2
  refine List.filter_congr fun t _ => ?_
  simp

/-- The tables of a filter are joined behind those of the request. -/
theorem requiredTables_of_filter (r : QueryRequest) (text : String) (f : FilterExpr) :
    (ofRequest { r with conditionData := text } (some f)).map (·.requiredTables) =
      (ofRequest r none).map fun selection => selection.requiredTables ++
        f.tables.filter (· ∉ selection.requiredTables) := by
  unfold ofRequest
  cases r.dimensionData.mapM (·.columnsOf) with
  | error e => rfl
  | ok dimensions =>
    cases r.measureData.mapM (·.columnsOf) with
    | error e => rfl
    | ok measures =>
      exact congrArg Except.ok (requiredTables_collect_filter dimensions.flatten measures.flatten f)

theorem ofTable_filterReads {f : FilterExpr} (nodup : f.columns.Nodup) (table : String) :
    (ofTable table (filterReads (some f))).eraseDups = f.columnsFor table := by
  have own : ofTable table (filterReads (some f)) = f.columnsFor table := by
    simp [ofTable, filterReads, FilterExpr.columnsFor, List.filter_map, Function.comp_def]
  rw [own]
  refine eraseDups_of_nodup ((nodup.filter _).map_on fun c hc c' hc' same => ?_)
  have table_c : c.table = table := by simpa using List.of_mem_filter hc
  have table_c' : c'.table = table := by simpa using List.of_mem_filter hc'
  cases c
  cases c'
  exact congrArg₂ FilterColumn.mk (table_c.trans table_c'.symm) same

/-- A filter on tables that are there already makes them show more columns. -/
theorem adds_of_filter {f : FilterExpr} (nodup : f.columns.Nodup)
    (named : ∀ c ∈ f.columns, c.table ∈ r.namedTables) {text : String} {selection' : Selection}
    (selected : ofRequest { r with conditionData := text } (some f) = .ok selection') :
    ∃ selection, ofRequest r none = .ok selection ∧ selection.Adds selection' f.columnsFor := by
  obtain ⟨dimensions, measures, hd, hm, rfl⟩ := ofRequest_eq_ok_iff.1 selected
  have selected₀ : ofRequest r none = .ok (collect dimensions.flatten measures.flatten []) :=
    ofRequest_eq_ok_iff.2 ⟨dimensions, measures, hd, hm, rfl⟩
  refine ⟨_, selected₀, rfl, ?_, fun table joins => ?_⟩
  · have none_new : f.tables.filter (· ∉
        (collect dimensions.flatten measures.flatten []).requiredTables) = [] := by
      rw [List.filter_eq_nil_iff]
      intro t mem
      obtain ⟨c, hc, rfl⟩ := List.mem_map.1 (List.mem_eraseDups.1 mem)
      simpa using mem_requiredTables_of_named selected₀ (named c hc)
    have tables := requiredTables_collect_filter dimensions.flatten measures.flatten f
    rwa [none_new, List.append_nil] at tables
  · rw [requestedItems_ofRequest, requestedItems_ofRequest, ofTable_filterReads nodup]
    simp [ofTable]

end Selection

/-! ## Statements with a filter -/

/-- A statement with a filter is one without in which the derived tables show the columns of the filter as
well. -/
structure Assembled.Filtered (d : Dialect) (f : FilterExpr) (text : String) (a a' : Assembled) : Prop where
  columns : a'.columns = a.columns
  tables : a'.tables = a.tables
  unfiltered : a.query.condition = none
  query : a'.query = .mk a.query.select
    (a.query.source.map (·.mapDerived fun t => Query.showAlso d t (f.columnsFor t)))
    (some (.verbatim (trim text))) a.query.groupBy

variable {target : Target} {links : List Link} {r : QueryRequest}

/-- What answers a request with a filter on its own tables answers it without. -/
theorem Stages.exists_unfiltered (blank : isBlankText r.conditionData = true) {text : String}
    {f : FilterExpr} (read : FilterExpr.ofText target.dialect text = .ok (some f))
    (named : ∀ c ∈ f.columns, c.table ∈ r.namedTables)
    (c' : Stages target links { r with conditionData := text }) :
    ∃ c : Stages target links r, c.path = c'.path ∧
      c.assembled.Filtered target.dialect f text c'.assembled := by
  have nodup := FilterExpr.nodup_columns read
  have text_eq : f.text = trim text := by
    obtain ⟨-, t, columns, -, -, rfl⟩ := Filter.SqlParser.readFilter_eq_some_iff.1 read
    rfl
  have filter : c'.filter = some f := Except.ok.inj (c'.filter_ok.symm.trans read)
  have selected' := c'.selected
  have assembled_ok' := c'.assembled_ok
  rw [filter] at selected' assembled_ok'
  obtain ⟨selection, selected, adds⟩ := Selection.adds_of_filter nodup named selected'
  obtain ⟨a, assembled_ok, columns, tables, unfiltered, query⟩ :=
    assemble_filtered adds (fun _ mem => (c'.usable mem).tables_ne) assembled_ok'
  let c : Stages target links r := {
    filter := none
    selection := selection
    graph := c'.graph
    path := c'.path
    steps := c'.steps
    assembled := a
    filter_ok := if_pos blank
    selected := selected
    built := c'.built
    resolved := adds.tables ▸ c'.resolved
    planned := c'.planned
    assembled_ok := assembled_ok }
  exact ⟨c, rfl, columns.symm, tables.symm, unfiltered, text_eq ▸ query⟩

/-- A filter on tables that a request names only adds to its statement. The path and the columns of the
result stay, each derived table shows the columns of the filter that it did not show before at its end, and
rows are filtered by the text. Other tables of a filter are joined behind those of the request. -/
theorem filter_extends_statement (blank : isBlankText r.conditionData = true) {text : String}
    {f : FilterExpr} (read : FilterExpr.ofText target.dialect text = .ok (some f)) :
    ((∀ c ∈ f.columns, c.table ∈ r.namedTables) → ∀ answer',
      compile target links { r with conditionData := text } = .ok answer' →
      ∃ answer a a', compile target links r = .ok answer ∧ answer.path = answer'.path ∧
        answer.columns = answer'.columns ∧
        compileQuery target links r = .ok (a, answer.path) ∧
        compileQuery target links { r with conditionData := text } = .ok (a', answer'.path) ∧
        answer.sql = a.query.toSql target.dialect ∧ answer'.sql = a'.query.toSql target.dialect ∧
        a.Filtered target.dialect f text a') ∧
    (Selection.ofRequest { r with conditionData := text } (some f)).map (·.requiredTables) =
      (Selection.ofRequest r none).map fun selection => selection.requiredTables ++
        f.tables.filter (· ∉ selection.requiredTables) := by
  refine ⟨fun named answer' answered => ?_, Selection.requiredTables_of_filter r text f⟩
  obtain ⟨c', rfl⟩ := compile_eq_ok_iff.1 answered
  obtain ⟨c, path, filtered⟩ := c'.exists_unfiltered blank read named
  exact ⟨c.answer, c.assembled, c'.assembled, compile_eq_ok_iff.2 ⟨c, rfl⟩, path,
    filtered.columns.symm, compileQuery_eq_ok_iff.2 ⟨c, rfl, rfl⟩,
    compileQuery_eq_ok_iff.2 ⟨c', rfl, rfl⟩, rfl, rfl, filtered⟩

/-- The sum of the units by the year of the term. -/
def unitsPerYear : QueryRequest where
  dimensionData := [⟨"term", "year", ""⟩]
  measureData := [⟨"fact", "units", "sum", "Units"⟩]

/-- Years are shown anyway. Grades are shown for the filter alone, and facts are grouped by them. -/
theorem school_filter_extends :
    ∃ answer a a', compile {} JoinGraph.schoolLinks unitsPerYear = .ok answer ∧
      compileQuery {} JoinGraph.schoolLinks unitsPerYear = .ok (a, answer.path) ∧
      compileQuery {} JoinGraph.schoolLinks
        { unitsPerYear with conditionData := " fact.grade > 1 AND term.year = 2020 " } =
          .ok (a', answer.path) ∧
      a.Filtered .postgres ⟨"fact.grade > 1 AND term.year = 2020", [⟨"fact", "grade"⟩, ⟨"term", "year"⟩]⟩
        " fact.grade > 1 AND term.year = 2020 " a' ∧
      (a'.query.source.map fun source => source.derivedTables.map fun t =>
        (t.name, t.query.select.filterMap (·.aliasName), t.query.groupBy)) =
        some [("fact", ["Units", "term_id", "grade"],
            [.ofTable "fact" "term_id", .ofTable "fact" "grade"]),
          ("term", ["year", "id"], [])] := by
  have read : FilterExpr.ofText .postgres " fact.grade > 1 AND term.year = 2020 " =
      .ok (some ⟨"fact.grade > 1 AND term.year = 2020",
        [⟨"fact", "grade"⟩, ⟨"term", "year"⟩]⟩) := by decide +kernel
  have shown : (compileQuery {} JoinGraph.schoolLinks
      { unitsPerYear with conditionData := " fact.grade > 1 AND term.year = 2020 " }).map (fun made =>
        made.1.query.source.map fun source => source.derivedTables.map fun t =>
          (t.name, t.query.select.filterMap (·.aliasName), t.query.groupBy)) =
      .ok (some [("fact", ["Units", "term_id", "grade"],
          [.ofTable "fact" "term_id", .ofTable "fact" "grade"]),
        ("term", ["year", "id"], [])]) := by decide +kernel
  obtain ⟨⟨b, path⟩, made, shown⟩ := map_eq_ok_iff.1 shown
  have answered : compile {} JoinGraph.schoolLinks
      { unitsPerYear with conditionData := " fact.grade > 1 AND term.year = 2020 " } =
      .ok ⟨b.query.toSql .postgres, b.columns, path, .postgres⟩ := by
    rw [compile, made]
    rfl
  obtain ⟨answer, a, a', answered₀, path_eq, -, made₀, made', -, -, filtered⟩ :=
    (@filter_extends_statement {} JoinGraph.schoolLinks unitsPerYear (by decide +kernel) _ _ read).1
      (by decide +kernel) _ answered
  obtain rfl : b = a' := (Prod.mk.inj (Except.ok.inj (made.symm.trans made'))).1
  exact ⟨answer, a, b, answered₀, made₀, path_eq ▸ made, filtered, shown⟩

end Joinery
