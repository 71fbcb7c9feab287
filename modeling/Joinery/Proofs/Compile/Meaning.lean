import Joinery.Proofs.Assembly.Meaning
import Joinery.Proofs.Compile.Names
import Joinery.Proofs.Filter.Attribution

/-!
# What the statement of a request returns

Without measures, the statement of a request returns what a flat query of the stored tables does: it takes
one row of each table of the source, keeps what the links of the joins and the filter accept, and shows the
columns that the request names (`compile_rows_eq_flat`). The names that inner statements give to columns,
the items they leave out, and the joins that bring in no table do not show.
-/

namespace Joinery

open Sql Assembly

/-- A stored column that a request wants to see as a column of the result. -/
structure QueryRequest.ShowsAs (r : QueryRequest) (c : OutputColumn) (k : FlatColumn) : Prop where
  name : k.name = c.aliasName
  table : k.table = c.table
  asks : r.Asks c.table c.aliasName (.ofTable k.table k.column)

/-- The flat query that a statement is compared with: its tables are those that the statement takes rows
from, and its links those of the path that bring in a table. -/
def flatQuery (target : Target) (r : QueryRequest) (source : Source) (steps : List JoinStep)
    (filter : Option FilterExpr) (columns : List FlatColumn) : FlatQuery where
  schema := r.schema <|> target.schema
  tables := source.derivedTables.map (·.name)
  joins := introducing [] (steps.map (·.condition))
  filter := filter
  columns := columns

variable {target : Target} {links : List Link} {r : QueryRequest}

/-! ## Requests without measures -/

/-- Without measures all items are columns. -/
theorem plain_of_no_measures {d : Dialect} {filter : Option FilterExpr} {selection : Selection}
    {joins : List Link} {t : String} {s : TableQuery}
    (selected : Selection.ofRequest r filter = .ok selection) (no_measures : r.measureData = [])
    (made : TableQuery.ofTable d selection joins t = .ok s) : s.Plain := by
  obtain ⟨own, shows⟩ := TableQuery.shows_ofTable made
  obtain ⟨dimensions, measures, -, hm, rfl⟩ := Selection.ofRequest_eq_ok_iff.1 selected
  rw [no_measures] at hm
  obtain rfl := Except.ok.inj hm
  intro i mem
  have asked := shows.asked i mem
  rw [requestedItems_ofRequest, own.symm] at asked
  simp only [List.mem_append, List.mem_map] at asked
  rcases asked with ((⟨c, -, rfl⟩ | ⟨c, none_there, -⟩) | ⟨k, -, rfl⟩) | ⟨k, -, rfl⟩
  · exact ⟨c.column, rfl⟩
  · cases none_there
  · exact ⟨k, rfl⟩
  · exact ⟨k, rfl⟩

theorem exists_showsAs {filter : Option FilterExpr} {selection : Selection}
    (selected : Selection.ofRequest r filter = .ok selection) (no_measures : r.measureData = []) :
    ∃ columns, List.Forall₂ r.ShowsAs selection.outputs columns := by
  have each : ∀ c ∈ selection.outputs, ∃ k, r.ShowsAs c k := by
    intro c mem
    obtain ⟨e, asks⟩ := Selection.exists_asks_of_mem_outputs selected mem
    cases asks with
    | @dimension entry columns column entry_mem read shown =>
      exact ⟨⟨c.aliasName, c.table, column⟩, rfl, rfl, .dimension entry_mem read shown⟩
    | measure entry_mem =>
      rw [no_measures] at entry_mem
      cases entry_mem
  choose! stored shown using each
  exact ⟨selection.outputs.map stored,
    List.forall₂_map_right_iff.2 (List.forall₂_same.2 shown)⟩

/-! ## The outer statement -/

namespace Assembled.LaidOut

variable {d : Dialect} {schema : Option String} {filter : Option FilterExpr} {selection : Selection}
  {joins : List Link} {y : Layout} {inner : String → TableQuery} {a : Assembled} {V : Type}
  {db : Database V}

/-- The filter says of a nested combination what it says of the stored rows. -/
theorem filter_nest (h : a.LaidOut d schema selection joins (filter.map (·.text)) y inner) {text : String}
    (filter_ok : FilterExpr.ofText d text = .ok filter)
    (selected : Selection.ofRequest r filter = .ok selection) {c : Combination V}
    (nodup : (c.map (·.1)).Nodup) (tables : c.map (·.1) = y.tables) :
    (((filter.map (·.text)).map Expr.verbatim).map (·.holds? d db (nest d inner c))).getD (some true) =
        c.passes? d db filter ∧ (c.passes? d db filter).isSome := by
  cases filter with
  | none => exact ⟨rfl, rfl⟩
  | some f =>
    have there : ∀ k ∈ f.columns, k.table ∈ y.tables := fun k mem =>
      h.covers_required (Selection.mem_requiredTables_of_filter selected mem)
    have values : ∀ k ∈ f.columns,
        Sql.read? (nest d inner c) k.table k.column = c.read? d k.table k.column := by
      intro k mem
      exact read?_nest nodup (tables ▸ there k mem) (h.shows (there k mem)).2
        (mem_requestedItems_of_filter selected joins mem)
    constructor
    · rw [Option.map_some, Option.map_some, Option.map_some, Option.getD_some, Expr.holds?,
        FilterExpr.ofText_text filter_ok]
      exact congrArg (Option.map (db.accepts f.text)) (mapM_congr values)
    · exact Combination.isSome_passes? nodup fun _ eq k mem =>
        tables ▸ there k (Option.some.inj eq ▸ mem)

/-- An outer column has in a nested combination the value of the stored column that it shows. -/
theorem column_nest (h : a.LaidOut d schema selection joins (filter.map (·.text)) y inner)
    (selected : Selection.ofRequest r filter = .ok selection) {c : Combination V}
    (nodup : (c.map (·.1)).Nodup) (tables : c.map (·.1) = y.tables) {o : OutputColumn} {k : FlatColumn}
    (shown : r.ShowsAs o k) :
    ∃ v, ((Expr.ofTable o.table o.aliasName).value? (nest d inner c)).map (o.aliasName, ·) = some v ∧
      (c.read? d k.table k.column).map (k.name, ·) = some v := by
  have there : o.table ∈ y.tables :=
    h.covers_required (Selection.mem_requiredTables_of_asks selected shown.asks)
  have asked := mem_requestedItems_of_asks selected joins shown.asks
  rw [shown.table] at asked ⊢
  obtain ⟨v, read⟩ := Option.isSome_iff_exists.1
    (Combination.isSome_read? (d := d) nodup (tables ▸ there) k.column)
  refine ⟨(o.aliasName, v), ?_, ?_⟩
  · rw [Expr.ofTable, Expr.value?, read?_nest nodup (tables ▸ there) (h.shows there).2 asked, read]
    rfl
  · rw [read, shown.name]
    rfl

/-- The outer statement shows what a flat query of its tables keeps. -/
theorem rows?_query (h : a.LaidOut d schema selection joins (filter.map (·.text)) y inner)
    (ne : ∀ l ∈ joins, l.leftTable ≠ l.rightTable) (plain : ∀ t ∈ y.tables, (inner t).Plain)
    {text : String} (filter_ok : FilterExpr.ofText d text = .ok filter)
    (selected : Selection.ofRequest r filter = .ok selection) (columns : List FlatColumn) :
    a.query.rows? d db =
      ((FlatQuery.mk schema y.tables (introducing [] joins) filter columns).kept d db).mapM fun c =>
        selection.outputs.mapM fun o =>
          ((Expr.ofTable o.table o.aliasName).value? (nest d inner c)).map (o.aliasName, ·) := by
  have items : ∀ i ∈ selection.outputs.map fun c => SelectItem.mk (.ofTable c.table c.aliasName) none,
      i.expr.isAggregate = false := by
    intro i mem
    obtain ⟨c, -, rfl⟩ := List.mem_map.1 mem
    rfl
  have decides : ∀ c ∈ (combinations db schema y.tables).filter (meets d db (y.joins.map (·.1))),
      (((filter.map (·.text)).map Expr.verbatim).map (·.holds? d db (nest d inner c))).getD
          (some true) = c.passes? d db filter ∧ (c.passes? d db filter).isSome := by
    intro c mem
    have tables := tables_of_mem_combinations (List.mem_of_mem_filter mem)
    exact h.filter_nest filter_ok selected (tables ▸ h.nodup) tables
  have kept : ((combinations db schema y.tables).filter (meets d db (y.joins.map (·.1)))).filter
      (fun c => c.passes? d db filter = some true) =
      (FlatQuery.mk schema y.tables (introducing [] joins) filter columns).kept d db := by
    rw [FlatQuery.kept, List.filter_filter]
    apply List.filter_congr
    intro c _
    rw [Bool.eq_iff_iff, Bool.and_eq_true, decide_eq_true_iff, decide_eq_true_iff,
      FlatQuery.accepts?_eq_some_iff, and_comm, h.entered]
    simp [meets]
  rw [h.query, outerQuery, Query.rows?_of_scopes? items (h.scopes?_source ne plain), keep?_map,
    keep?_congr fun c mem => (decides c mem).1, keep?_eq_some fun c mem => (decides c mem).2, kept]
  simp only [Option.map_some, Option.bind_eq_bind, Option.bind_some, List.mapM_map]
  rfl

/-- A statement and the flat query of its tables return the same rows. -/
theorem exists_rows (h : a.LaidOut d schema selection joins (filter.map (·.text)) y inner)
    (ne : ∀ l ∈ joins, l.leftTable ≠ l.rightTable) (no_measures : r.measureData = [])
    {text : String} (filter_ok : FilterExpr.ofText d text = .ok filter)
    (selected : Selection.ofRequest r filter = .ok selection) {columns : List FlatColumn}
    (shown : List.Forall₂ r.ShowsAs selection.outputs columns) (db : Database V) :
    ∃ rows, a.query.rows? d db = some rows ∧
      (FlatQuery.mk schema y.tables (introducing [] joins) filter columns).rows? d db = some rows := by
  have plain : ∀ t ∈ y.tables, (inner t).Plain := fun t mem =>
    plain_of_no_measures selected no_measures (h.inner t mem)
  have ends : ∀ l ∈ introducing [] joins, l.leftTable ∈ y.tables ∧ l.rightTable ∈ y.tables := by
    rw [← h.entered]
    exact fun l mem => h.ends mem
  have reads : ∀ f, filter = some f → ∀ k ∈ f.columns, k.table ∈ y.tables := by
    rintro f rfl k mem
    exact h.covers_required (Selection.mem_requiredTables_of_filter selected mem)
  rw [h.rows?_query ne plain filter_ok selected columns,
    FlatQuery.rows?_eq_mapM (q := ⟨schema, y.tables, introducing [] joins, filter, columns⟩) h.nodup
      ends reads]
  apply exists_mapM_of_forall₂
  rw [List.forall₂_same]
  intro c mem
  have tables := tables_of_mem_combinations (List.mem_of_mem_filter mem)
  apply exists_mapM_of_forall₂
  exact shown.imp fun o k shown => h.column_nest selected (tables ▸ h.nodup) tables shown

end Assembled.LaidOut

/-! ## The statement of a request -/

/-- Without measures a statement returns the rows of a flat query, each as often as this does. -/
theorem compile_rows_eq_flat {answer : Answer} (answered : compile target links r = .ok answer)
    (no_measures : r.measureData = []) :
    ∃ assembled source filter graph steps,
      compileQuery target links r = .ok (assembled, answer.path) ∧
      answer.sql = assembled.query.toSql target.dialect ∧ answer.columns = assembled.columns ∧
      assembled.query.source = some source ∧
      FilterExpr.ofText target.dialect r.conditionData = .ok filter ∧
      JoinGraph.build links = .ok graph ∧ graph.plan answer.path = .ok steps ∧
      (∃ columns, List.Forall₂ r.ShowsAs answer.columns columns) ∧
      ∀ columns, List.Forall₂ r.ShowsAs answer.columns columns → ∀ (V : Type) (db : Database V),
        ∃ rows, assembled.query.rows? target.dialect db = some rows ∧
          (flatQuery target r source steps filter columns).rows? target.dialect db = some rows := by
  obtain ⟨c, rfl⟩ := compile_eq_ok_iff.1 answered
  obtain ⟨y, inner, laid⟩ := c.exists_layout
  have columns_eq : c.answer.columns = c.selection.outputs := laid.columns
  refine ⟨c.assembled, y.source fun t => (inner t).source (r.schema <|> target.schema), c.filter,
    c.graph, c.steps, compileQuery_eq_ok_iff.2 ⟨c, rfl, rfl⟩, rfl, rfl, ?_, c.filter_ok, c.built,
    c.planned, columns_eq ▸ exists_showsAs c.selected no_measures, fun columns shown V db => ?_⟩
  · rw [laid.query]
    rfl
  · have tables : (y.source fun t => (inner t).source (r.schema <|> target.schema)).derivedTables.map
        (·.name) = y.tables := by
      rw [Assembled.LaidOut.derivedTables_source, laid.map_name fun t mem => mem]
    rw [flatQuery, tables]
    exact laid.exists_rows (fun l mem => (c.usable mem).tables_ne) no_measures c.filter_ok c.selected
      (columns_eq ▸ shown) db

/-- The year of the term and the units, for each fact of a student of one gender. -/
def unitsListed : QueryRequest where
  dimensionData := [⟨"term", "year", "Year"⟩, ⟨"fact", "units", ""⟩]
  conditionData := "student.gender = 'F'"

/-- The inner statements of terms and facts show the columns they are joined by as well, but their rows
are those of the stored tables. -/
theorem school_rows_eq_flat :
    ∃ (assembled : Assembled) (source : Source) (filter : Option FilterExpr) (steps : List JoinStep),
      assembled.columns = [⟨"term", "Year"⟩, ⟨"fact", "units"⟩] ∧
      assembled.query.source = some source ∧
      ∀ (V : Type) (db : Database V), ∃ rows, assembled.query.rows? .postgres db = some rows ∧
        (flatQuery {} unitsListed source steps filter
          [⟨"Year", "term", "year"⟩, ⟨"units", "fact", "units"⟩]).rows? .postgres db = some rows := by
  have columns : (compile {} JoinGraph.schoolLinks unitsListed).map (·.columns) =
      .ok [⟨"term", "Year"⟩, ⟨"fact", "units"⟩] := by decide +kernel
  obtain ⟨answer, answered, columns⟩ := map_eq_ok_iff.1 columns
  obtain ⟨assembled, source, filter, graph, steps, -, -, same, from_eq, -, -, -, -, returns⟩ :=
    compile_rows_eq_flat answered rfl
  have year : (DimensionEntry.mk "term" "year" "Year").columnsOf =
      .ok [("term", ⟨"year", "Year"⟩)] := by decide +kernel
  have units : (DimensionEntry.mk "fact" "units" "").columnsOf =
      .ok [("fact", ⟨"units", "units"⟩)] := by decide +kernel
  have first : unitsListed.ShowsAs ⟨"term", "Year"⟩ ⟨"Year", "term", "year"⟩ :=
    ⟨rfl, rfl, .dimension (by simp [unitsListed]) year (by simp)⟩
  have second : unitsListed.ShowsAs ⟨"fact", "units"⟩ ⟨"units", "fact", "units"⟩ :=
    ⟨rfl, rfl, .dimension (by simp [unitsListed]) units (by simp)⟩
  exact ⟨assembled, source, filter, steps, same ▸ columns, from_eq,
    returns _ (columns ▸ .cons first (.cons second .nil))⟩

end Joinery
