import Joinery.Proofs.Assembly.Layout
import Joinery.Proofs.Sql.Flat

/-!
# What a chain of inner statements returns

An inner statement without aggregates shows each stored row under the names of its items. So a chain of
them goes through combinations of stored rows (`Assembled.LaidOut.scopes?_source`): in front of each join
these are the combinations of the tables joined so far that the joins so far accept, each seen through the
names of the inner statements (`nest`).
-/

namespace Joinery

open Sql Assembly

variable {V : Type} {d : Dialect} {db : Database V} {schema : Option String}

/-! ## Rows of inner statements -/

/-- Every item is a column of the table. -/
def TableQuery.Plain (s : TableQuery) : Prop :=
  ∀ i ∈ s.items, ∃ k, i.expr = .ofTable s.table k

/-- What an inner statement shows of a stored row. -/
def TableQuery.row (d : Dialect) (s : TableQuery) (stored : String → V) : Row V :=
  s.items.map fun i => (i.aliasName, stored (d.columnKey i.expr.columnName))

theorem TableQuery.Plain.not_aggregate {s : TableQuery} (plain : s.Plain) {i : InnerItem}
    (mem : i ∈ s.items) : i.expr.isAggregate = false := by
  obtain ⟨k, eq⟩ := plain i mem
  rw [eq]
  rfl

/-- The items have the values of their columns in a stored row. -/
theorem TableQuery.Plain.mapM_value? {s : TableQuery} (plain : s.Plain) (stored : String → V) :
    s.items.mapM (fun i => (i.expr.value? [⟨s.table, fun k => some (stored (d.columnKey k))⟩]).map
      (i.aliasName, ·)) = some (s.row d stored) := by
  have value : ∀ i ∈ s.items,
      (i.expr.value? [⟨s.table, fun k => some (stored (d.columnKey k))⟩]).map (i.aliasName, ·) =
        some (i.aliasName, stored (d.columnKey i.expr.columnName)) := by
    intro i mem
    obtain ⟨k, eq⟩ := plain i mem
    simp [eq, Expr.ofTable, Expr.value?, Sql.read?, Expr.columnName]
  rw [mapM_congr value]
  exact List.mapM_pure

/-- An inner statement without aggregates shows every stored row once. -/
theorem TableQuery.Plain.rows?_query {s : TableQuery} (plain : s.Plain) :
    (s.query schema).rows? d db = some ((db.rows ⟨schema, s.table⟩).map (s.row d)) := by
  have no_aggregate : s.aggregates = false := by
    rw [aggregates, List.any_eq_false]
    intro i mem
    rw [plain.not_aggregate mem]
    exact Bool.false_ne_true
  have no_group : s.groupBy = [] := by
    rw [groupBy, no_aggregate]
    rfl
  have items : ∀ i ∈ s.items.map fun i => SelectItem.mk i.expr (some i.aliasName),
      i.expr.isAggregate = false := by
    intro item mem
    obtain ⟨i, shown, rfl⟩ := List.mem_map.1 mem
    exact plain.not_aggregate shown
  rw [query, no_group, Query.rows?_of_scopes? items rfl]
  simp only [Option.map_none, Option.getD_none, keep?_true, Option.bind_eq_bind, Option.bind_some,
    List.mapM_map]
  exact (mapM_congr fun stored _ => plain.mapM_value? stored).trans List.mapM_pure

/-! ## Combinations under the names of inner statements -/

/-- The rows that a combination takes, as inner statements show them. -/
def nest (d : Dialect) (inner : String → TableQuery) (c : Combination V) : List (Binding V) :=
  c.map fun b => ⟨b.1, ((inner b.1).row d b.2).read? d⟩

theorem nest_append (inner : String → TableQuery) (c c' : Combination V) :
    nest d inner (c ++ c') = nest d inner c ++ nest d inner c' :=
  List.map_append

theorem TableQuery.Plain.scopes?_source {inner : String → TableQuery} {t : String}
    (plain : (inner t).Plain) (own : (inner t).table = t) :
    ((inner t).source schema).scopes? d db =
      some ((db.rows ⟨schema, t⟩).map fun row => nest d inner [(t, row)]) := by
  rw [source, Source.scopes?, plain.rows?_query, own]
  simp [nest]

theorem columnKey_of_sameValue {e : Expr} {table column : String}
    (same : e.SameValue d (.ofTable table column)) : d.columnKey e.columnName = d.columnKey column := by
  cases same with
  | refl => rfl
  | column names => exact Dialect.sameColumn_iff.1 names

/-- An item that is asked for has the value of its column. -/
theorem TableQuery.Shows.read?_row {s : TableQuery} {asked : List InnerItem} (shows : s.Shows d asked)
    {table column name : String} (mem : InnerItem.ofColumn table column name ∈ asked)
    (stored : String → V) : (s.row d stored).read? d name = some (stored (d.columnKey column)) := by
  obtain ⟨i, one, -, same⟩ := shows.filter_eq_singleton mem
  have found : ((s.row d stored).filter fun c => d.sameColumn c.1 name) =
      [(i.aliasName, stored (d.columnKey i.expr.columnName))] := by
    rw [row, List.filter_map]
    exact congrArg _ one
  rw [Row.read?, found, columnKey_of_sameValue same]

/-- A name in a nested combination stands for the column that it was asked for. -/
theorem read?_nest {inner : String → TableQuery} {c : Combination V} (nodup : (c.map (·.1)).Nodup)
    {table column name : String} (there : table ∈ c.map (·.1)) {asked : List InnerItem}
    (shows : (inner table).Shows d asked) (mem : InnerItem.ofColumn table column name ∈ asked) :
    Sql.read? (nest d inner c) table name = c.read? d table column := by
  obtain ⟨row, taken, read⟩ := Combination.exists_row (d := d) nodup there
  have names : ((nest d inner c).map (·.table)).Nodup := by
    rw [nest, List.map_map]
    exact nodup
  have found : (nest d inner c).filter (·.table = table) =
      [⟨table, ((inner table).row d row).read? d⟩] :=
    filter_eq_singleton_of_nodup names (List.mem_map.2 ⟨(table, row), taken, rfl⟩)
  rw [Sql.read?, found, read]
  exact shows.read?_row mem row

/-! ## Chains -/

/-- A combination that some links accept. -/
def meets (d : Dialect) (db : Database V) (links : List Link) (c : Combination V) : Bool :=
  links.all fun l => c.satisfies? d db l = some true

theorem meets_append (links links' : List Link) (c : Combination V) :
    meets d db (links ++ links') c = (meets d db links c && meets d db links' c) :=
  List.all_append

/-- A further table does not change what links of others say. -/
theorem meets_concat {links : List Link} {c : Combination V} {x : String × (String → V)}
    (other : ∀ l ∈ links, x.1 ≠ l.leftTable ∧ x.1 ≠ l.rightTable) :
    meets d db links (c ++ [x]) = meets d db links c := by
  unfold meets
  rw [Bool.eq_iff_iff, List.all_eq_true, List.all_eq_true]
  refine forall₂_congr fun l mem => ?_
  rw [Combination.satisfies?_concat (other l mem).1 (other l mem).2]

theorem joinExpr_holds? (l : Link) (scope : List (Binding V)) :
    l.joinExpr.holds? d db scope = (l.equations.mapM (Expr.holds? d db scope)).map (·.all id) := by
  rw [← Expr.allHold?_eq_mapM, Link.joinExpr]
  cases l.equations with
  | nil => rw [Expr.conjAll, Option.getD_none, Expr.holds?]
  | cons e es => exact Expr.holds?_foldl_conj e es

theorem flatMap_filter {α β : Type} (p : α → Bool) (f : α → List β) (l : List α) :
    (l.filter p).flatMap f = l.flatMap fun a => if p a then f a else [] := by
  induction l with
  | nil => rfl
  | cons a l ih => cases kept : p a <;> simp [kept, ih]

/-- Joining one more table to the combinations that some links accept makes the longer combinations
that they accept. -/
theorem pairs_nest (inner : String → TableQuery) {seen : List String} {t : String} {done : List Link}
    (other : ∀ l ∈ done, t ≠ l.leftTable ∧ t ≠ l.rightTable) :
    (((combinations db schema seen).filter (meets d db done)).map (nest d inner)).flatMap
        (fun scope =>
          ((db.rows ⟨schema, t⟩).map fun row => nest d inner [(t, row)]).map (scope ++ ·)) =
      ((combinations db schema (seen ++ [t])).filter (meets d db done)).map (nest d inner) := by
  rw [combinations_concat, List.filter_flatMap, List.map_flatMap, List.flatMap_map, flatMap_filter]
  apply List.flatMap_congr
  intro c _
  have same : (fun row => meets d db done (c ++ [(t, row)])) = fun _ => meets d db done c :=
    funext fun row => meets_concat other
  rw [List.filter_map, Function.comp_def, same]
  cases meets d db done c with
  | false => simp
  | true => simp [nest_append]

namespace Assembled.LaidOut

variable {selection : Selection} {joins : List Link} {filter : Option String} {y : Layout}
  {inner : String → TableQuery} {a : Assembled}

/-- The condition of a join says of a nested combination what its link says of the stored rows. -/
theorem joinExpr_nest (h : a.LaidOut d schema selection joins filter y inner) {l : Link}
    (joined : l ∈ joins) (ne : l.leftTable ≠ l.rightTable) {c : Combination V}
    (nodup : (c.map (·.1)).Nodup) (sub : ∀ t ∈ c.map (·.1), t ∈ y.tables)
    (left : l.leftTable ∈ c.map (·.1)) (right : l.rightTable ∈ c.map (·.1)) :
    l.joinExpr.holds? d db (nest d inner c) = c.satisfies? d db l := by
  rw [joinExpr_holds?, Combination.satisfies?, Link.equations, List.mapM_map]
  congr 1
  apply mapM_congr
  intro p mem
  obtain ⟨left_mem, right_mem⟩ := List.of_mem_zip mem
  have left_asked := mem_requestedItems_of_join joined ((columnsFor_left l).symm ▸ left_mem)
    ((selection.find? l.leftTable).getD { table := l.leftTable })
  have right_asked := mem_requestedItems_of_join joined ((columnsFor_right ne).symm ▸ right_mem)
    ((selection.find? l.rightTable).getD { table := l.rightTable })
  change Expr.holds? d db (nest d inner c)
    (.eq (.ofTable l.leftTable p.1) (.ofTable l.rightTable p.2)) = _
  rw [Expr.holds?, Expr.ofTable, Expr.ofTable, Expr.value?, Expr.value?,
    read?_nest nodup left (h.shows (sub _ left)).2 left_asked,
    read?_nest nodup right (h.shows (sub _ right)).2 right_asked, Combination.agree?]

/-- One more join keeps the combinations that its link accepts as well. -/
theorem scopes?_join (h : a.LaidOut d schema selection joins filter y inner) {seen : List String}
    {t : String} {done : List Link} {l : Link} {chain : JoinChain} (joined : l ∈ joins)
    (ne : l.leftTable ≠ l.rightTable) (nodup : (seen ++ [t]).Nodup)
    (sub : ∀ s ∈ seen ++ [t], s ∈ y.tables) (plain : (inner t).Plain)
    (left : l.leftTable ∈ seen ++ [t]) (right : l.rightTable ∈ seen ++ [t])
    (there : ∀ m ∈ done, m.leftTable ∈ seen ∧ m.rightTable ∈ seen)
    (chain_eq : chain.scopes? d db =
      some (((combinations db schema seen).filter (meets d db done)).map (nest d inner))) :
    (JoinChain.join chain ((inner t).source schema) l.joinExpr).scopes? d db =
      some (((combinations db schema (seen ++ [t])).filter (meets d db (done ++ [l]))).map
        (nest d inner)) := by
  have own : (inner t).table = t := (h.shows (sub t (by simp))).1
  have new : t ∉ seen := by
    intro mem
    exact (List.nodup_append.1 nodup).2.2 t mem t (by simp) rfl
  have other : ∀ m ∈ done, t ≠ m.leftTable ∧ t ≠ m.rightTable := fun m mem =>
    ⟨fun e => new (e ▸ (there m mem).1), fun e => new (e ▸ (there m mem).2)⟩
  -- On the pairs the condition says what the link does.
  have decides : ∀ c ∈ (combinations db schema (seen ++ [t])).filter (meets d db done),
      l.joinExpr.holds? d db (nest d inner c) = c.satisfies? d db l ∧
        (c.satisfies? d db l).isSome := by
    intro c mem
    have tables := tables_of_mem_combinations (List.mem_of_mem_filter mem)
    rw [← tables] at nodup sub left right
    exact ⟨h.joinExpr_nest joined ne nodup sub left right,
      Combination.isSome_satisfies? nodup left right⟩
  rw [JoinChain.scopes?, chain_eq, plain.scopes?_source own]
  simp only [Option.bind_eq_bind, Option.bind_some]
  rw [pairs_nest inner other, keep?_map, keep?_congr fun c mem => (decides c mem).1,
    keep?_eq_some fun c mem => (decides c mem).2, List.filter_filter, Option.map_some]
  have last : meets d db (done ++ [l]) = fun c =>
      decide (c.satisfies? d db l = some true) && meets d db done c := by
    funext c
    rw [meets_append, Bool.and_comm]
    simp [meets]
  rw [last]

/-- A chain goes through the combinations of its tables that its links accept. -/
theorem scopes?_chainFrom (h : a.LaidOut d schema selection joins filter y inner)
    (ne : ∀ l ∈ joins, l.leftTable ≠ l.rightTable) (plain : ∀ t ∈ y.tables, (inner t).Plain)
    {seen : List String} (done : List Link) {chain : JoinChain} {es : List (Link × String)}
    (nodup : (seen ++ es.map (·.2)).Nodup) (sub : ∀ t ∈ seen ++ es.map (·.2), t ∈ y.tables)
    (joined : ∀ e ∈ es, e.1 ∈ joins) (grows : Grows seen es)
    (there : ∀ l ∈ done, l.leftTable ∈ seen ∧ l.rightTable ∈ seen)
    (chain_eq : chain.scopes? d db =
      some (((combinations db schema seen).filter (meets d db done)).map (nest d inner))) :
    (chainFrom (fun t => (inner t).source schema) chain es).scopes? d db =
      some (((combinations db schema (seen ++ es.map (·.2))).filter
        (meets d db (done ++ es.map (·.1)))).map (nest d inner)) := by
  induction es generalizing seen done chain with
  | nil => simpa [chainFrom] using chain_eq
  | cons e es ih =>
    rw [List.map_cons, List.append_cons] at nodup sub
    obtain ⟨new, ends, grows⟩ := grows
    have both : e.1.leftTable ∈ seen ++ [e.2] ∧ e.1.rightTable ∈ seen ++ [e.2] := by
      rcases ends with ⟨entered, old⟩ | ⟨entered, old⟩
      · simp [← entered, old]
      · simp [← entered, old]
    have own := joined e (by simp)
    have entered := sub e.2 (by simp)
    have one := h.scopes?_join own (ne _ own) (List.nodup_append.1 nodup).1
      (fun t mem => sub t (List.mem_append_left _ mem)) (plain _ entered) both.1 both.2 there chain_eq
    have there' : ∀ l ∈ done ++ [e.1], l.leftTable ∈ seen ++ [e.2] ∧ l.rightTable ∈ seen ++ [e.2] := by
      intro l mem
      rcases List.mem_append.1 mem with mem | mem
      · exact ⟨List.mem_append_left _ (there l mem).1, List.mem_append_left _ (there l mem).2⟩
      · rw [List.mem_singleton.1 mem]
        exact both
    have rest := ih (done ++ [e.1]) nodup sub (fun f mem => joined f (by simp [mem])) grows there' one
    rwa [← List.append_cons, ← List.append_cons] at rest

/-- The source of a statement goes through the combinations that the links of its joins accept. -/
theorem scopes?_source (h : a.LaidOut d schema selection joins filter y inner)
    (ne : ∀ l ∈ joins, l.leftTable ≠ l.rightTable) (plain : ∀ t ∈ y.tables, (inner t).Plain) :
    (y.source fun t => (inner t).source schema).scopes? d db =
      some (((combinations db schema y.tables).filter (meets d db (y.joins.map (·.1)))).map
        (nest d inner)) := by
  have base : y.base ∈ y.tables := List.mem_cons_self
  have start : ((inner y.base).source schema).scopes? d db =
      some (((combinations db schema [y.base]).filter (meets d db [])).map (nest d inner)) := by
    have all : (meets d db [] : Combination V → Bool) = fun _ => true := rfl
    have single : combinations db schema [y.base] =
        (db.rows ⟨schema, y.base⟩).map fun row => [(y.base, row)] := by
      simp [combinations, List.map_eq_flatMap]
    rw [(plain _ base).scopes?_source (h.shows base).1, all, List.filter_true, single, List.map_map]
    rfl
  rw [Layout.source]
  split_ifs with single
  · rw [start, Layout.tables, single]
    rfl
  · rw [Source.scopes?, Layout.chain]
    exact h.scopes?_chainFrom ne plain [] h.nodup (fun t mem => mem) h.mem h.grows
      (fun l mem => absurd mem List.not_mem_nil) (by rw [JoinChain.scopes?, start])

end Assembled.LaidOut

end Joinery
