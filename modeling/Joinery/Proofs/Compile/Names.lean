import Joinery.Proofs.Compile.Errors
import Joinery.Proofs.Compile.Stages
import Joinery.Proofs.Sql.Scope

/-!
# Names in the statement of a request

Whatever a statement names, it finds: each derived table stands for the stored table of its name, and a
column of the result, of a join or of the filter is one item of the derived table that it names, namely
the one that was meant (`compile_names_resolve`). Inner statements leave out what they show already, so
this rests on what they show (`TableQuery.Shows`) and on the tables that are there when a join needs them
(`Grows`).
-/

namespace Joinery

open Sql Assembly

/-! ## Sources of a chain -/

namespace Assembly

variable {source : String → Source}

theorem derivedTables_chainFrom (source : String → Source) (chain : JoinChain)
    (es : List (Link × String)) : (chainFrom source chain es).derivedTables =
      chain.derivedTables ++ es.flatMap fun e => (source e.2).derivedTables := by
  induction es generalizing chain with
  | nil => exact (List.append_nil _).symm
  | cons e es ih =>
    rw [chainFrom, List.foldl_cons, ← chainFrom, ih, JoinChain.derivedTables, List.flatMap_cons,
      List.append_assoc]

/-- A join of a chain names what came before it and what it joins. -/
theorem mem_joinScopes_chainFrom (plain : ∀ t, (source t).joinScopes = []) {chain : JoinChain}
    {es : List (Link × String)} {j : JoinScope} (mem : j ∈ (chainFrom source chain es).joinScopes) :
    j ∈ chain.joinScopes ∨ ∃ before e after, es = before ++ e :: after ∧
      j = ⟨(chainFrom source chain (before ++ [e])).derivedTables, e.1.joinExpr⟩ := by
  induction es generalizing chain with
  | nil => exact .inl mem
  | cons e es ih =>
    rcases ih mem with mem | ⟨before, f, after, rfl, rfl⟩
    · rw [JoinChain.joinScopes, plain, List.append_nil, List.mem_append, List.mem_singleton] at mem
      rcases mem with mem | rfl
      · exact .inl mem
      · exact .inr ⟨[], e, es, rfl, rfl⟩
    · exact .inr ⟨e :: before, f, after, rfl, rfl⟩

/-- The condition of a join reads the columns of its predicates, each from its own table. -/
theorem columnsRead_joinExpr (l : Link) : l.joinExpr.columnsRead =
    l.predicates.flatMap fun p => [(some l.leftTable, p.1), (some l.rightTable, p.2)] := by
  have reads : l.joinExpr.columnsRead = Expr.columnsReadAll l.equations := by
    unfold Link.joinExpr
    cases l.equations with
    | nil => rfl
    | cons e es => exact Expr.columnsRead_foldl_conj e es
  rw [reads, Link.equations]
  induction l.predicates with
  | nil => rfl
  | cons p ps ih =>
    rw [List.map_cons, Expr.columnsReadAll, ih]
    rfl

theorem mem_columnsRead_joinExpr {l : Link} {c : Option String × String}
    (mem : c ∈ l.joinExpr.columnsRead) :
    c.1 = some l.leftTable ∧ c.2 ∈ l.leftColumns ∨ c.1 = some l.rightTable ∧ c.2 ∈ l.rightColumns := by
  rw [columnsRead_joinExpr] at mem
  obtain ⟨⟨left, right⟩, hp, own⟩ := List.mem_flatMap.1 mem
  rcases List.mem_pair.1 own with rfl | rfl
  · exact .inl ⟨rfl, (List.of_mem_zip hp).1⟩
  · exact .inr ⟨rfl, (List.of_mem_zip hp).2⟩

end Assembly

/-! ## Derived tables of a layout -/

namespace Assembled.LaidOut

variable {d : Dialect} {schema : Option String} {selection : Selection} {joins : List Link}
  {filter : Option String} {y : Layout} {inner : String → TableQuery} {a : Assembled}

/-- The inner statement of a table as a derived table. -/
def derivedTable (schema : Option String) (inner : String → TableQuery) (t : String) :
    DerivedTable :=
  ⟨(inner t).table, (inner t).query schema⟩

theorem derivedTables_chain (schema : Option String) (inner : String → TableQuery) (base : String)
    (es : List (Link × String)) :
    (chainFrom (fun t => (inner t).source schema) (.base ((inner base).source schema))
        es).derivedTables =
      (base :: es.map (·.2)).map (derivedTable schema inner) := by
  rw [derivedTables_chainFrom, List.map_cons, List.map_map, List.map_eq_flatMap]
  rfl

theorem derivedTables_source (y : Layout) :
    (y.source fun t => (inner t).source schema).derivedTables =
      y.tables.map (derivedTable schema inner) := by
  unfold Layout.source
  split_ifs with single
  · rw [Layout.tables, single]
    rfl
  · exact derivedTables_chain schema inner y.base y.joins

theorem map_name (h : a.LaidOut d schema selection joins filter y inner) {tables : List String}
    (sub : ∀ t ∈ tables, t ∈ y.tables) :
    (tables.map (derivedTable schema inner)).map (·.name) = tables := by
  rw [List.map_map]
  exact (List.map_congr_left fun t mem => (h.shows (sub t mem)).1).trans (List.map_id' tables)

/-- The name of what is asked of a table finds it among some tables of the layout. -/
theorem resolves (h : a.LaidOut d schema selection joins filter y inner) {tables : List String}
    (sub : ∀ t ∈ tables, t ∈ y.tables) (nodup : tables.Nodup) {t : String} (mem : t ∈ tables)
    {item : InnerItem}
    (asked : item ∈ requestedItems t ((selection.find? t).getD { table := t }) joins) :
    ∃ shown, Resolves d (tables.map (derivedTable schema inner)) t item.aliasName shown ∧
      shown.expr.SameValue d item.expr := by
  obtain ⟨table, shows⟩ := h.shows (sub t mem)
  obtain ⟨shown, one, same⟩ := shows.named_eq_singleton schema asked
  refine ⟨shown, ⟨(inner t).query schema, ?_, one⟩, same⟩
  have names : ((tables.map (derivedTable schema inner)).map (·.name)).Nodup := by
    rw [h.map_name sub]
    exact nodup
  have found := filter_eq_singleton_of_nodup names
    (List.mem_map_of_mem (f := derivedTable schema inner) mem)
  rwa [derivedTable, table] at found

/-- The condition of a join reads what the tables that are there by then show as it is stored. -/
theorem showsColumn_join (h : a.LaidOut d schema selection joins filter y inner)
    (usable : ∀ l ∈ joins, l.Usable) {j : JoinScope}
    (mem : j ∈ (y.source fun t => (inner t).source schema).joinScopes) {c : Option String × String}
    (reads : c ∈ j.condition.columnsRead) :
    ∃ table, c.1 = some table ∧ ShowsColumn d j.visible table c.2 := by
  have in_chain : j ∈ (y.chain fun t => (inner t).source schema).joinScopes := by
    rw [Layout.source] at mem
    by_cases single : y.joins = []
    · rw [if_pos single] at mem
      cases mem
    · rwa [if_neg single] at mem
  have plain : ∀ t, ((inner t).source schema).joinScopes = [] := fun _ => rfl
  rcases mem_joinScopes_chainFrom plain in_chain with none_there | ⟨before, e, after, eq, rfl⟩
  · cases none_there
  have tables_eq := Layout.tables_eq_append eq
  have sub : ∀ t ∈ y.base :: (before ++ [e]).map (·.2), t ∈ y.tables := fun t ht =>
    tables_eq ▸ List.mem_append_left _ ht
  have nodup := (List.nodup_append.1 (tables_eq ▸ h.nodup)).1
  have joined : e.1 ∈ joins := h.mem e (by simp [eq])
  rw [derivedTables_chain]
  -- Both sides are asked of their tables under their own names, whatever else these show.
  have shows : ∀ t ∈ y.base :: (before ++ [e]).map (·.2), c.2 ∈ e.1.columnsFor t →
      ShowsColumn d ((y.base :: (before ++ [e]).map (·.2)).map (derivedTable schema inner)) t c.2 := by
    intro t there own
    obtain ⟨shown, found, same⟩ :=
      h.resolves sub nodup there (mem_requestedItems_of_join joined own _)
    exact ⟨shown, found, same⟩
  rcases mem_columnsRead_joinExpr reads with ⟨table, column⟩ | ⟨table, column⟩
  · refine ⟨e.1.leftTable, table, shows _ (h.ends_at eq).1 ?_⟩
    rwa [columnsFor_left]
  · refine ⟨e.1.rightTable, table, shows _ (h.ends_at eq).2 ?_⟩
    rwa [columnsFor_right (usable _ joined).tables_ne]

end Assembled.LaidOut

/-! ## Statements of requests -/

/-- Every name of a statement finds what a request and its filter mean by it. -/
structure Assembled.NamesResolve (target : Target) (r : QueryRequest) (filter : Option FilterExpr)
    (a : Assembled) (source : Source) : Prop where
  /-- The derived tables stand for the tables that rows are taken from, each for another one. -/
  tables : source.derivedTables.map (·.name) = a.tables
  distinct : (source.derivedTables.map (·.name)).Nodup
  stored : ∀ t ∈ source.derivedTables,
    t.query.source = some (.table ⟨r.schema <|> target.schema, t.name⟩)
  /-- The select list names the columns of the result. -/
  select : a.query.select = a.columns.map fun c => ⟨.ofTable c.table c.aliasName, none⟩
  /-- A column of the result is what the request wants to see under its name. -/
  outputs : ∀ c ∈ a.columns, ∃ item,
    Resolves target.dialect source.derivedTables c.table c.aliasName item ∧
      (∃ e, r.Asks c.table c.aliasName e) ∧
      ∀ e, r.Asks c.table c.aliasName e → item.expr.SameValue target.dialect e
  /-- The condition of a join reads tables that are there by then, as they are stored. -/
  joins : ∀ j ∈ source.joinScopes, ∀ c ∈ j.condition.columnsRead,
    ∃ table, c.1 = some table ∧ ShowsColumn target.dialect j.visible table c.2
  /-- So does the filter with all of them. -/
  filter : ∀ f, filter = some f → ∀ c ∈ f.columns,
    ShowsColumn target.dialect source.derivedTables c.table c.column

theorem Assembled.LaidOut.namesResolve {target : Target} {r : QueryRequest}
    {filter : Option FilterExpr} {selection : Selection} {joins : List Link} {y : Layout}
    {inner : String → TableQuery} {a : Assembled}
    (h : a.LaidOut target.dialect (r.schema <|> target.schema) selection joins
      (filter.map (·.text)) y inner)
    (selected : Selection.ofRequest r filter = .ok selection) (usable : ∀ l ∈ joins, l.Usable) :
    a.NamesResolve target r filter
      (y.source fun t => (inner t).source (r.schema <|> target.schema)) := by
  have all : ∀ t ∈ y.tables, t ∈ y.tables := fun _ mem => mem
  have names : ((y.source fun t => (inner t).source (r.schema <|> target.schema)).derivedTables.map
      (·.name)) = y.tables := by
    rw [derivedTables_source, h.map_name all]
  constructor
  case tables => rw [names, h.tables]
  case distinct =>
    rw [names]
    exact h.nodup
  case stored =>
    intro t mem
    rw [derivedTables_source] at mem
    obtain ⟨table, -, rfl⟩ := List.mem_map.1 mem
    rfl
  case select => rw [h.query, h.columns, outerQuery, Query.select]
  case outputs =>
    intro c mem
    obtain ⟨e, asks⟩ := Selection.exists_asks_of_mem_outputs selected (h.columns ▸ mem)
    have there := h.covers_required (Selection.mem_requiredTables_of_asks selected asks)
    obtain ⟨item, found, -⟩ := h.resolves all h.nodup there
      (mem_requestedItems_of_asks selected joins asks)
    refine ⟨item, derivedTables_source y ▸ found, ⟨e, asks⟩, fun e' asks' => ?_⟩
    obtain ⟨item', found', same⟩ := h.resolves all h.nodup there
      (mem_requestedItems_of_asks selected joins asks')
    rwa [found.unique found']
  case joins =>
    intro j mem c reads
    exact h.showsColumn_join usable mem reads
  case filter =>
    intro f eq c mem
    subst eq
    have there := h.covers_required (Selection.mem_requiredTables_of_filter selected mem)
    obtain ⟨item, found, same⟩ := h.resolves all h.nodup there
      (mem_requestedItems_of_filter selected joins mem)
    exact ⟨item, derivedTables_source y ▸ found, same⟩

/-- A request is answered by a statement all names of which find what is meant by them. -/
theorem compile_names_resolve {target : Target} {links : List Link} {r : QueryRequest}
    {answer : Answer} (answered : compile target links r = .ok answer) :
    ∃ assembled source filter, compileQuery target links r = .ok (assembled, answer.path) ∧
      answer.sql = assembled.query.toSql target.dialect ∧ answer.columns = assembled.columns ∧
      assembled.query.source = some source ∧
      FilterExpr.ofText target.dialect r.conditionData = .ok filter ∧
      assembled.NamesResolve target r filter source := by
  obtain ⟨c, rfl⟩ := compile_eq_ok_iff.1 answered
  obtain ⟨y, inner, laid⟩ := c.exists_layout
  refine ⟨c.assembled, y.source fun t => (inner t).source (r.schema <|> target.schema), c.filter,
    compileQuery_eq_ok_iff.2 ⟨c, rfl, rfl⟩, rfl, rfl, ?_, c.filter_ok, laid.namesResolve c.selected
      (fun l mem => c.usable mem)⟩
  rw [laid.query]
  rfl

/-- Terms show their year as `Year`, the facts show a sum, and both show what they are joined by. -/
theorem school_names_resolve :
    ∃ (assembled : Assembled) (source : Source) (filter : Option FilterExpr),
      assembled.columns = [⟨"term", "Year"⟩, ⟨"fact", "Units"⟩] ∧
      assembled.query.source = some source ∧
      FilterExpr.ofText .postgres "student.gender = 'F'" = .ok filter ∧
      assembled.NamesResolve {} (unitsByYear "Year") filter source := by
  have columns : (compile {} JoinGraph.schoolLinks (unitsByYear "Year")).map (·.columns) =
      .ok [⟨"term", "Year"⟩, ⟨"fact", "Units"⟩] := by decide +kernel
  obtain ⟨answer, answered, columns⟩ := map_eq_ok_iff.1 columns
  obtain ⟨assembled, source, filter, -, -, same, from_eq, filter_ok, names⟩ :=
    compile_names_resolve answered
  exact ⟨assembled, source, filter, same ▸ columns, from_eq, filter_ok, names⟩

end Joinery
