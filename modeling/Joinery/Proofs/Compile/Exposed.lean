import Joinery.Proofs.Assembly.FirstItems
import Joinery.Proofs.Assembly.Legible
import Joinery.Proofs.Compile.Intermediate
import Joinery.Proofs.Compile.Spanning

/-!
# Columns that inner statements show

An inner statement shows the columns that its table is joined by in all joins. A join that leads back to
tables that are there is left out of the chain, but its columns are shown nonetheless, and where measures
are taken, rows are grouped by them: `exposed_columns` says that this is all that is shown beyond what a
statement needs, and `left_out_join_splits_groups` that sums are split by it.
-/

namespace Joinery

open Sql Assembly

/-! ## Joins that are left out -/

/-- The tables of a join were named by earlier ones, so the join brings in none. -/
def LeftOut (joins : List Link) (l : Link) : Prop :=
  ∃ before after, joins = before ++ l :: after ∧
    ∀ t, l.edge.touches t → ∃ m ∈ before, m.edge.touches t

theorem mem_introducing_or_leftOut {joins : List Link} {l : Link} (mem : l ∈ joins) :
    l ∈ introducing [] joins ∨ LeftOut joins l := by
  obtain ⟨before, after, rfl⟩ := List.append_of_mem mem
  by_cases named : ∀ t, l.edge.touches t → ∃ m ∈ before, m.edge.touches t
  · exact .inr ⟨before, after, rfl, named⟩
  · simp only [not_forall, not_exists, not_and] at named
    obtain ⟨t, touches, unnamed⟩ := named
    exact .inl (mem_introducing_append_cons before
      ⟨t, touches, List.not_mem_nil, unnamed⟩)

/-! ## Columns that are needed -/

/-- A statement has a use for a column of a table: it is a dimension, the filter reads it, or the
condition of a join does. -/
inductive Needs (selection : Selection) (source : Source) (table column : String) : Prop
  | dimension {c : Dimension} (mem : c ∈ ((selection.find? table).getD { table }).dimensions)
    (own : c.column = column) : Needs selection source table column
  | filter (mem : column ∈ ((selection.find? table).getD { table }).filterColumns) :
    Needs selection source table column
  | join {j : JoinScope} (mem : j ∈ source.joinScopes)
    (reads : (some table, column) ∈ j.condition.columnsRead) : Needs selection source table column

/-- A column of a table is needed, or a join that is left out would have needed it. -/
def NeededOrLeftOut (selection : Selection) (joins : List Link) (source : Source)
    (table column : String) : Prop :=
  Needs selection source table column ∨ ∃ l, LeftOut joins l ∧ column ∈ l.columnsFor table

/-- What a derived table shows of its table apart from measures. -/
structure Exposes (d : Dialect) (selection : Selection) (joins : List Link) (source : Source)
    (t : DerivedTable) : Prop where
  select : ∀ item ∈ t.query.select, item.expr.isAggregate = true ∨
    ∃ column, item.expr = .ofTable t.name column ∧ NeededOrLeftOut selection joins source t.name column
  groupBy : ∀ e ∈ t.query.groupBy,
    ∃ column, e = .ofTable t.name column ∧ NeededOrLeftOut selection joins source t.name column
  /-- The columns of a join that is left out are shown all the same. -/
  kept : ∀ l, LeftOut joins l → ∀ column ∈ l.columnsFor t.name,
    ∃ item ∈ t.query.select, item.expr.SameValue d (.ofTable t.name column)
  /-- If there are measures, rows are grouped by them. -/
  grouped : (∃ item ∈ t.query.select, item.expr.isAggregate = true) →
    ∀ l, LeftOut joins l → ∀ column ∈ l.columnsFor t.name,
      ∃ e ∈ t.query.groupBy, e.SameValue d (.ofTable t.name column)

/-- The condition of a join reads every column that the join has for a table. -/
theorem mem_columnsRead_of_columnsFor {l : Link}
    (length_eq : l.leftColumns.length = l.rightColumns.length) {table column : String}
    (own : column ∈ l.columnsFor table) : (some table, column) ∈ l.joinExpr.columnsRead := by
  rw [columnsRead_joinExpr, List.mem_flatMap]
  unfold Link.columnsFor at own
  split_ifs at own with left right
  · obtain ⟨p, hp, rfl⟩ := List.mem_map.1 ((List.map_fst_zip length_eq.le).symm ▸ own)
    exact ⟨p, hp, by simp [left]⟩
  · obtain ⟨p, hp, rfl⟩ := List.mem_map.1 ((List.map_snd_zip length_eq.ge).symm ▸ own)
    exact ⟨p, hp, by simp [right]⟩
  · cases own

section Assemble

variable {d : Dialect} {schema : Option String} {selection : Selection} {joins : List Link}
  {filter : Option String} {y : Layout} {inner : String → TableQuery} {a : Assembled}

/-- What is asked of a table is a measure or a column that is needed, but for joins that are left out. -/
theorem Assembled.LaidOut.needed_or_left_out (h : a.LaidOut d schema selection joins filter y inner)
    (checked : ∀ l ∈ joins, checkJoin l = .ok ()) {table : String} {item : InnerItem}
    (mem : item ∈ requestedItems table ((selection.find? table).getD { table }) joins) :
    item.expr.isAggregate = true ∨ ∃ column, item.expr = .ofTable table column ∧
      NeededOrLeftOut selection joins (y.source fun t => (inner t).source schema) table column := by
  simp only [requestedItems, List.mem_append, List.mem_map] at mem
  rcases mem with ((⟨c, hc, rfl⟩ | ⟨c, -, rfl⟩) | ⟨column, reads, rfl⟩) | ⟨column, reads, rfl⟩
  · exact .inr ⟨c.column, rfl, .inl (.dimension hc rfl)⟩
  · exact .inl rfl
  · -- A join that brings in a table has its condition in the chain, and any other one is left out.
    obtain ⟨l, hl, own⟩ := List.mem_flatMap.1 reads
    refine .inr ⟨column, rfl, ?_⟩
    rcases mem_introducing_or_leftOut hl with enters | left_out
    · have condition := List.mem_map_of_mem (f := Link.joinExpr) enters
      rw [← h.map_condition_source] at condition
      obtain ⟨j, hj, same⟩ := List.mem_map.1 condition
      refine .inl (.join hj ?_)
      rw [same]
      exact mem_columnsRead_of_columnsFor (checkJoin_eq_ok_iff.1 (checked l hl)).2 own
    · exact .inr ⟨l, left_out, own⟩
  · exact .inr ⟨column, rfl, .inl (.filter reads)⟩

theorem Assembled.LaidOut.exposes (h : a.LaidOut d schema selection joins filter y inner)
    (checked : ∀ l ∈ joins, checkJoin l = .ok ()) {table : String} (there : table ∈ y.tables) :
    Exposes d selection joins (y.source fun t => (inner t).source schema)
      ⟨table, (inner table).query schema⟩ := by
  obtain ⟨-, shows⟩ := h.shows there
  have plain_shown : ∀ l, LeftOut joins l → ∀ column ∈ l.columnsFor table,
      ∃ i ∈ (inner table).items, i.expr.SameValue d (.ofTable table column) := by
    rintro l ⟨before, after, split_at, -⟩ column own
    obtain ⟨i, hi, -, same⟩ := shows.shown _
      (mem_requestedItems_of_join (by rw [split_at]; simp) own _)
    exact ⟨i, hi, same⟩
  refine ⟨?_, ?_, ?_, ?_⟩
  · intro item mem
    obtain ⟨i, hi, rfl⟩ := List.mem_map.1 mem
    exact h.needed_or_left_out checked (shows.asked i hi)
  · intro e mem
    obtain ⟨-, i, hi, plain, rfl⟩ := TableQuery.mem_groupBy_iff.1 mem
    exact (h.needed_or_left_out checked (shows.asked i hi)).resolve_left (by simp [plain])
  · intro l left_out column own
    obtain ⟨i, hi, same⟩ := plain_shown l left_out column own
    exact ⟨_, List.mem_map_of_mem hi, same⟩
  · rintro ⟨item, mem, aggregate⟩ l left_out column own
    obtain ⟨m, hm, rfl⟩ := List.mem_map.1 mem
    obtain ⟨i, hi, same⟩ := plain_shown l left_out column own
    have plain : i.expr.isAggregate = false := TableQuery.isAggregate_eq_of_sameValue same
    exact ⟨i.expr, TableQuery.mem_groupBy_iff.2 ⟨⟨m, hm, aggregate⟩, i, hi, plain, rfl⟩, same⟩

/-- A column that an inner statement shows or groups by is a dimension, is read by the filter or by the
condition of a join, or belongs to a join that is left out. The columns of such a join are always shown,
and measures are grouped by them. -/
theorem exposed_columns (ne : ∀ l ∈ joins, l.leftTable ≠ l.rightTable)
    (h : assemble d schema selection joins filter = .ok a) :
    ∃ source, a.query.source = some source ∧
      ∀ t ∈ source.derivedTables, Exposes d selection joins source t := by
  obtain ⟨-, checked, -⟩ := assemble_eq_ok_iff.1 h
  obtain ⟨y, inner, laid⟩ := exists_layout ne h
  refine ⟨y.source fun t => (inner t).source schema, ?_, ?_⟩
  · rw [laid.query]
    rfl
  · intro t mem
    rw [Assembled.LaidOut.derivedTables_source] at mem
    obtain ⟨table, there, rfl⟩ := List.mem_map.1 mem
    rw [Assembled.LaidOut.derivedTable, (laid.shows there).1]
    exact laid.exposes checked there

end Assemble

/-- The sum of the invoices of each customer, and the numbers of the orders. -/
def invoiceSums : Selection where
  tables := [⟨"invoice", [], [⟨"total", .sum, "Total"⟩], []⟩, ⟨"order", [⟨"number", "Number"⟩], [], []⟩]
  outputs := [⟨"invoice", "Total"⟩, ⟨"order", "Number"⟩]

/-- Invoices are grouped by what they share with customers and by the order, which no condition reads. -/
theorem assemble_invoiceSums : ∃ a source t, assemble .postgres none invoiceSums invoiceJoins none = .ok a ∧
    a.query.source = some source ∧ t ∈ source.derivedTables ∧ t.name = "invoice" ∧
    t.query.groupBy = [.ofTable "invoice" "shop", .ofTable "invoice" "customer_id",
      .ofTable "invoice" "order_id"] ∧
    ∀ j ∈ source.joinScopes, (some "invoice", "order_id") ∉ j.condition.columnsRead := by
  have put_together : (assemble .postgres none invoiceSums invoiceJoins none).map (fun a =>
      a.query.source.map fun source => (source.derivedTables.map fun t => (t.name, t.query.groupBy),
        source.joinScopes.all fun j => !j.condition.columnsRead.contains (some "invoice", "order_id"))) =
      .ok (some ([("order", []), ("customer", []), ("invoice", [.ofTable "invoice" "shop",
        .ofTable "invoice" "customer_id", .ofTable "invoice" "order_id"])], true)) := by
    decide +kernel
  obtain ⟨a, made, shown⟩ := map_eq_ok_iff.1 put_together
  obtain ⟨source, from_eq, shown⟩ := Option.map_eq_some_iff.1 shown
  obtain ⟨tables, unread⟩ := Prod.mk.inj shown
  have invoice : ("invoice", [.ofTable "invoice" "shop", .ofTable "invoice" "customer_id",
      .ofTable "invoice" "order_id"]) ∈
        source.derivedTables.map fun t => (t.name, t.query.groupBy) := by
    rw [tables]
    simp
  obtain ⟨t, mem, same⟩ := List.mem_map.1 invoice
  obtain ⟨name, groups⟩ := Prod.mk.inj same
  exact ⟨a, source, t, made, from_eq, mem, name, groups, by simpa using unread⟩

theorem leftOut_invoiceJoins : LeftOut invoiceJoins ⟨"invoice", "order", ["order_id"], ["id"]⟩ := by
  refine ⟨[⟨"order", "customer", ["customer_id"], ["id"]⟩,
    ⟨"invoice", "customer", ["shop", "customer_id"], ["shop", "id"]⟩], [], rfl, fun t touches => ?_⟩
  rcases JoinEdge.touches_iff.1 touches with rfl | rfl
  · exact ⟨⟨"invoice", "customer", ["shop", "customer_id"], ["shop", "id"]⟩, by simp, by decide⟩
  · exact ⟨⟨"order", "customer", ["customer_id"], ["id"]⟩, by simp, by decide⟩

/-- Invoices show the order, by which no join goes. -/
theorem invoice_exposes_order : ∃ a source t, assemble .postgres none invoiceSums invoiceJoins none = .ok a ∧
    a.query.source = some source ∧ t ∈ source.derivedTables ∧ t.name = "invoice" ∧
    Exposes .postgres invoiceSums invoiceJoins source t ∧
    ∃ item ∈ t.query.select, item.expr.SameValue .postgres (.ofTable "invoice" "order_id") := by
  obtain ⟨a, source, t, made, from_eq, mem, name, -, -⟩ := assemble_invoiceSums
  obtain ⟨source', from_eq', exposes⟩ := exposed_columns (by decide) made
  cases from_eq.symm.trans from_eq'
  have shown := (exposes t mem).kept _ leftOut_invoiceJoins
  rw [name] at shown
  exact ⟨a, source, t, made, from_eq, mem, name, exposes t mem, shown "order_id" (by decide)⟩

/-- The join of invoices with orders is left out, and no condition reads the order of an invoice. The sum
is taken for each order nonetheless. -/
theorem left_out_join_splits_groups :
    ∃ a source t, (∀ l ∈ invoiceJoins, l.leftTable ≠ l.rightTable) ∧
      assemble .postgres none invoiceSums invoiceJoins none = .ok a ∧ a.query.source = some source ∧
      t ∈ source.derivedTables ∧ t.name = "invoice" ∧
      .ofTable "invoice" "order_id" ∈ t.query.groupBy ∧
      ¬ Needs invoiceSums source "invoice" "order_id" := by
  obtain ⟨a, source, t, made, from_eq, mem, name, groups, unread⟩ := assemble_invoiceSums
  refine ⟨a, source, t, by decide, made, from_eq, mem, name, by rw [groups]; simp, ?_⟩
  intro needed
  cases needed with
  | dimension mem own => cases mem
  | filter mem => cases mem
  | join mem reads => exact unread _ mem reads

end Joinery
