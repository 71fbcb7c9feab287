import Joinery.Proofs.Assembly.Layout

/-!
# Columns that only a filter reads

A filter makes a table show more columns. They are asked for last, so a statement that shows them is the
statement that does without, with those of them at its end that it does not show yet
(`TableQuery.addAll_columns`). Nothing else changes, neither the tables nor the joins: the source is the
same with more columns in its derived tables (`assemble_filtered`).
-/

namespace Joinery

open Sql Assembly

/-- The columns under names that are not shown yet, each once. -/
def unshown (d : Dialect) : (shown columns : List String) → List String
  | _, [] => []
  | shown, c :: cs =>
    if shown.any (d.sameColumn · c) then unshown d shown cs else c :: unshown d (shown ++ [c]) cs

/-! ## More columns of a statement -/

namespace TableQuery

variable {d : Dialect} {s s' : TableQuery}

/-- The statement with more columns of its table behind what it shows. -/
def showAlso (d : Dialect) (columns : List String) (s : TableQuery) : TableQuery where
  table := s.table
  items := s.items ++
    (unshown d (s.items.map (·.aliasName)) columns).map fun c => .ofColumn s.table c c

/-- Columns that are added come behind what is shown, unless they are shown already. -/
theorem addAll_columns {columns : List String}
    (added : addAll d s (columns.map fun c => .ofColumn s.table c c) = .ok s') :
    s' = s.showAlso d columns := by
  induction columns generalizing s with
  | nil =>
    obtain rfl := Except.ok.inj added
    simp [showAlso, unshown]
  | cons c columns ih =>
    rw [List.map_cons, addAll, List.foldlM_cons] at added
    obtain ⟨s₁, first, rest⟩ := bind_eq_ok_iff.1 added
    rcases add_cases first with ⟨rfl, shown, mem, same, -⟩ | ⟨rfl, fresh⟩
    · have old : (s₁.items.map (·.aliasName)).any (d.sameColumn · c) = true :=
        List.any_eq_true.2 ⟨shown.aliasName, List.mem_map_of_mem mem, same⟩
      rw [ih rest, showAlso, showAlso, unshown, if_pos old]
    · have new : ¬ (s.items.map (·.aliasName)).any (d.sameColumn · c) = true := by
        rw [List.any_map, List.any_eq_true]
        rintro ⟨shown, mem, same⟩
        exact fresh shown mem same
      rw [ih rest, showAlso, showAlso, unshown, if_neg new]
      simp [InnerItem.ofColumn]

end TableQuery

/-- The query of a table with more of its columns behind what it shows. Where it has an aggregate, it is
grouped by them as well. -/
def Sql.Query.showAlso (d : Dialect) (table : String) (columns : List String) (q : Query) : Query :=
  let more : List SelectItem := (unshown d (q.select.filterMap (·.aliasName)) columns).map fun c =>
    ⟨.ofTable table c, some c⟩
  .mk (q.select ++ more) q.source q.condition
    (if q.select.any (·.expr.isAggregate) then q.groupBy ++ more.map (·.expr) else q.groupBy)

namespace TableQuery

theorem aggregates_showAlso (d : Dialect) (columns : List String) (s : TableQuery) :
    (s.showAlso d columns).aggregates = s.aggregates := by
  simp [aggregates, showAlso, List.any_append, InnerItem.ofColumn, Expr.ofTable, Expr.isAggregate]

theorem groupBy_showAlso (d : Dialect) (columns : List String) (s : TableQuery) :
    (s.showAlso d columns).groupBy = if s.aggregates then
        s.groupBy ++ (unshown d (s.items.map (·.aliasName)) columns).map (.ofTable s.table ·)
      else s.groupBy := by
  rw [groupBy, groupBy, aggregates_showAlso]
  split_ifs
  · simp [showAlso, List.filter_append, InnerItem.ofColumn, Expr.ofTable, Expr.isAggregate,
      List.filter_map, Function.comp_def]
  · rfl

theorem query_showAlso (schema : Option String) (d : Dialect) (columns : List String)
    (s : TableQuery) :
    (s.showAlso d columns).query schema = (s.query schema).showAlso d s.table columns := by
  have names : (s.query schema).select.filterMap (·.aliasName) = s.items.map (·.aliasName) := by
    simp [query, Query.select, List.filterMap_map]
  have aggregate : (s.query schema).select.any (·.expr.isAggregate) = s.aggregates := by
    simp [query, Query.select, aggregates, List.any_map, Function.comp_def]
  rw [Query.showAlso, names, aggregate, query, groupBy_showAlso]
  simp [query, Query.select, Query.source, Query.condition, Query.groupBy, showAlso,
    InnerItem.ofColumn, Function.comp_def]

end TableQuery

/-! ## More columns of the derived tables of a source -/

mutual

/-- The source with its derived tables changed, each by its name. -/
def Sql.Source.mapDerived (change : String → Query → Query) : Source → Source
  | .table ref => .table ref
  | .derived query name => .derived (change name query) name
  | .nested chain => .nested (chain.mapDerived change)

def Sql.JoinChain.mapDerived (change : String → Query → Query) : JoinChain → JoinChain
  | .base source => .base (source.mapDerived change)
  | .join chain source condition =>
    .join (chain.mapDerived change) (source.mapDerived change) condition

end

variable {change : String → Query → Query} {source source' : String → Source}

theorem mapDerived_chainFrom {es : List (Link × String)}
    (same : ∀ e ∈ es, (source e.2).mapDerived change = source' e.2) (chain : JoinChain) :
    (chainFrom source chain es).mapDerived change =
      chainFrom source' (chain.mapDerived change) es := by
  induction es generalizing chain with
  | nil => rfl
  | cons e es ih =>
    rw [List.forall_mem_cons] at same
    rw [chainFrom, List.foldl_cons, ← chainFrom, ih same.2, JoinChain.mapDerived, same.1]
    rfl

theorem Layout.mapDerived_source {y : Layout}
    (same : ∀ t ∈ y.tables, (source t).mapDerived change = source' t) :
    (y.source source).mapDerived change = y.source source' := by
  rw [Layout.tables, List.forall_mem_cons, List.forall_mem_map] at same
  unfold Layout.source
  split_ifs with single
  · exact same.1
  · rw [Source.mapDerived, Layout.chain, mapDerived_chainFrom same.2, JoinChain.mapDerived, same.1]
    rfl

/-! ## Statements with a filter -/

/-- A selection shows more columns of its tables, behind everything else that it shows. -/
structure Selection.Adds (selection selection' : Selection) (columns : String → List String) :
    Prop where
  outputs : selection'.outputs = selection.outputs
  tables : selection'.requiredTables = selection.requiredTables
  items : ∀ table joins,
    requestedItems table ((selection'.find? table).getD { table }) joins =
      requestedItems table ((selection.find? table).getD { table }) joins ++
        (columns table).map fun c => .ofColumn table c c

variable {d : Dialect} {schema : Option String} {selection selection' : Selection}
  {joins : List Link} {filter : Option String} {columns : String → List String} {a a' : Assembled}

theorem Selection.Adds.exists_ofTable (adds : selection.Adds selection' columns) {table : String}
    {s' : TableQuery} (made : TableQuery.ofTable d selection' joins table = .ok s') :
    ∃ s, TableQuery.ofTable d selection joins table = .ok s ∧ s' = s.showAlso d (columns table) := by
  rw [TableQuery.ofTable, adds.items] at made
  obtain ⟨s, first, rest⟩ := TableQuery.addAll_append.1 made
  have made : TableQuery.ofTable d selection joins table = .ok s := first
  obtain rfl := (TableQuery.shows_ofTable made).1
  exact ⟨s, made, TableQuery.addAll_columns rest⟩

theorem Selection.Adds.tablesOf (adds : selection.Adds selection' columns) {tables : List String}
    (made : tablesOf selection' joins = .ok tables) : Assembly.tablesOf selection joins = .ok tables := by
  have names : selection'.tables.map (·.table) = selection.tables.map (·.table) := adds.tables
  obtain ⟨some_table, cases⟩ := tablesOf_eq_ok_iff.1 made
  refine tablesOf_eq_ok_iff.2 ⟨fun none_left => some_table ?_, ?_⟩
  · rw [none_left] at names
    exact List.map_eq_nil_iff.1 names
  · rcases cases with ⟨no_join, only, selected, rfl⟩ | ⟨some_join, covered, eq⟩
    · rw [selected] at names
      obtain ⟨only', one, same⟩ := List.map_eq_singleton_iff.1 names.symm
      exact .inl ⟨no_join, only', one, by rw [same]⟩
    · rw [← List.forall_mem_map (P := (· ∈ joinedTables joins))] at covered ⊢
      exact .inr ⟨some_join, names ▸ covered, eq⟩

/-- What can be put together with more columns can be put together without them. -/
theorem Selection.Adds.exists_assemble (adds : selection.Adds selection' columns)
    (ne : ∀ l ∈ joins, l.leftTable ≠ l.rightTable)
    (made : assemble d schema selection' joins filter = .ok a') (filter' : Option String) :
    ∃ a, assemble d schema selection joins filter' = .ok a ∧ a.tables = a'.tables := by
  obtain ⟨some_output, checked, tables, selects', source', tables_ok, selects_ok, source_ok, rfl⟩ :=
    assemble_eq_ok_iff.1 made
  have each : ∀ t ∈ tables, ∃ s, TableQuery.ofTable d selection joins t = .ok s := by
    intro t mem
    obtain ⟨s', -, s_made⟩ := exists_of_mem_of_mapM selects_ok mem
    obtain ⟨s, s_made, -⟩ := adds.exists_ofTable s_made
    exact ⟨s, s_made⟩
  obtain ⟨selects, selects_made⟩ := exists_mapM_eq_ok each
  -- Whether joins make a chain does not depend on what the tables show.
  have source_made : ∃ source, Assembly.source schema selects joins = .ok source := by
    cases joins with
    | nil =>
      cases selects with
      | nil =>
        obtain rfl := List.forall₂_nil_right_iff.1 (mapM_eq_ok_iff.1 selects_made)
        obtain rfl := List.forall₂_nil_left_iff.1 (mapM_eq_ok_iff.1 selects_ok)
        cases source_ok
      | cons s selects => exact ⟨_, rfl⟩
    | cons l ls =>
      obtain ⟨growing, -⟩ := (source_eq_ok_iff (ne l (by simp)) checked).1 source_ok
      exact ⟨_, (source_eq_ok_iff (ne l (by simp)) checked).2 ⟨growing, rfl⟩⟩
  obtain ⟨source, source_made⟩ := source_made
  exact ⟨_, assemble_eq_ok_iff.2 ⟨adds.outputs ▸ some_output, checked, tables, selects, source,
    adds.tablesOf tables_ok, selects_made, source_made, rfl⟩, rfl⟩

/-- A layout is made of its tables and the joins that bring them in. -/
theorem Layout.eq_of_tables {y y' : Layout} (tables : y.tables = y'.tables)
    (joins : y.joins.map (·.1) = y'.joins.map (·.1)) : y = y' := by
  obtain ⟨base, js⟩ := y
  obtain ⟨base', js'⟩ := y'
  obtain ⟨rfl, entered⟩ := List.cons.inj tables
  have pairs : ∀ es : List (Link × String), (es.map (·.1)).zip (es.map (·.2)) = es := fun es => by
    rw [List.zip_map', List.map_id']
  exact congrArg (Layout.mk base) (by rw [← pairs js, ← pairs js', joins, entered])

/-- With more columns to show and a filter, a statement is the same apart from these columns and the
filter. -/
theorem assemble_filtered (adds : selection.Adds selection' columns)
    (ne : ∀ l ∈ joins, l.leftTable ≠ l.rightTable) {text : String}
    (made : assemble d schema selection' joins (some text) = .ok a') :
    ∃ a, assemble d schema selection joins none = .ok a ∧ a.columns = a'.columns ∧
      a.tables = a'.tables ∧ a.query.condition = none ∧
      a'.query = .mk a.query.select
        (a.query.source.map (·.mapDerived fun t => Query.showAlso d t (columns t)))
        (some (.verbatim text)) a.query.groupBy := by
  obtain ⟨a, made', tables⟩ := adds.exists_assemble ne made none
  obtain ⟨y', inner', laid'⟩ := exists_layout ne made
  obtain ⟨y, inner, laid⟩ := exists_layout ne made'
  obtain rfl : y = y' := Layout.eq_of_tables (by rw [← laid.tables, tables, laid'.tables])
    (laid.entered.trans laid'.entered.symm)
  have sources : (y.source fun t => (inner t).source schema).mapDerived
      (fun t => Query.showAlso d t (columns t)) = y.source fun t => (inner' t).source schema := by
    refine Layout.mapDerived_source fun t mem => ?_
    obtain ⟨s, s_made, same⟩ := adds.exists_ofTable (laid'.inner t mem)
    obtain rfl := Except.ok.inj (s_made.symm.trans (laid.inner t mem))
    have own : (inner t).table = t := (laid.shows mem).1
    rw [same, TableQuery.source, TableQuery.source, Source.mapDerived, TableQuery.query_showAlso,
      TableQuery.showAlso, own]
  refine ⟨a, made', ?_, tables, ?_, ?_⟩
  · rw [laid.columns, laid'.columns, adds.outputs]
  · rw [laid.query]
    rfl
  · rw [laid'.query, laid.query, outerQuery, outerQuery, adds.outputs, ← sources]
    rfl

end Joinery
