import Mathlib.Data.List.Nodup
import Joinery.Assembly.TableQuery
import Joinery.Proofs.Dialect
import Joinery.Proofs.Request.Selection
import Joinery.Proofs.Sql.Scope

/-!
# Items of inner statements

Adding an item shows it or finds it shown already (`add_cases`). So an inner statement shows every item
that is asked for, under names none of which stands for two columns: `Shows` says so, and
`Shows.filter_eq_singleton` reads off it that a name finds one item alone. What a request, a join or a
filter reads from a table is among the items that are asked for.
-/

namespace Joinery

open Sql

namespace TableQuery

variable {d : Dialect} {s s' : TableQuery}

/-! ## Equal expressions -/

theorem sameExpr_iff {a b : Expr} : sameExpr d a b = true ↔ a.SameValue d b := by
  constructor
  · intro same
    unfold sameExpr at same
    split at same
    next =>
      rw [Bool.and_eq_true, beq_iff_eq] at same
      obtain ⟨rfl, columns⟩ := same
      exact .column columns
    next => exact beq_iff_eq.1 same ▸ .refl _
  · intro same
    cases same with
    | refl => cases a <;> simp [sameExpr]
    | column columns => simp [sameExpr, columns]

/-! ## Adding items -/

/-- An added item is shown already, or comes behind items with other names. -/
theorem add_cases {item : InnerItem} (h : add d s item = .ok s') :
    (s' = s ∧ ∃ shown ∈ s.items, d.sameColumn shown.aliasName item.aliasName = true ∧
        shown.expr.SameValue d item.expr) ∨
      (s' = { s with items := s.items ++ [item] } ∧
        ∀ shown ∈ s.items, d.sameColumn shown.aliasName item.aliasName ≠ true) := by
  unfold add at h
  split at h
  next shown found =>
    split_ifs at h with same
    have aliases := List.find?_some found
    exact .inl ⟨(Except.ok.inj h).symm, shown, List.mem_of_find?_eq_some found, aliases,
      sameExpr_iff.1 same⟩
  next none_shown => exact .inr ⟨(Except.ok.inj h).symm, List.find?_eq_none.1 none_shown⟩

theorem addAll_append {items more : List InnerItem} :
    addAll d s (items ++ more) = .ok s' ↔
      ∃ s₁, addAll d s items = .ok s₁ ∧ addAll d s₁ more = .ok s' := by
  rw [addAll, List.foldlM_append, bind_eq_ok_iff]
  rfl

/-- A statement shows what is asked for and nothing else, and its names differ. -/
structure Shows (d : Dialect) (s : TableQuery) (asked : List InnerItem) : Prop where
  distinct : (s.items.map fun item => d.columnKey item.aliasName).Nodup
  shown : ∀ item ∈ asked, ∃ i ∈ s.items, d.sameColumn i.aliasName item.aliasName = true ∧
    i.expr.SameValue d item.expr
  asked : ∀ i ∈ s.items, i ∈ asked

theorem shows_empty (d : Dialect) (table : String) : Shows d { table } [] where
  distinct := List.nodup_nil
  shown _ h := absurd h List.not_mem_nil
  asked _ h := h

theorem Shows.add {asked : List InnerItem} (h : s.Shows d asked) {item : InnerItem}
    (added : add d s item = .ok s') : s'.table = s.table ∧ s'.Shows d (asked ++ [item]) := by
  rcases add_cases added with ⟨rfl, shown, mem, same⟩ | ⟨rfl, fresh⟩
  · refine ⟨rfl, h.distinct, fun i hi => ?_, fun i hi => List.mem_append_left _ (h.asked i hi)⟩
    rcases List.mem_append.1 hi with hi | hi
    · exact h.shown i hi
    · exact List.mem_singleton.1 hi ▸ ⟨shown, mem, same⟩
  · refine ⟨rfl, ?_, fun i hi => ?_, fun i hi => ?_⟩
    · rw [List.map_append, List.nodup_append]
      refine ⟨h.distinct, List.nodup_singleton _, fun a ha b hb e => ?_⟩
      obtain ⟨shown, mem, rfl⟩ := List.mem_map.1 ha
      rw [List.map_singleton, List.mem_singleton] at hb
      exact fresh shown mem (Dialect.sameColumn_iff.2 (e.trans hb))
    · rcases List.mem_append.1 hi with hi | hi
      · obtain ⟨shown, mem, same⟩ := h.shown i hi
        exact ⟨shown, List.mem_append_left _ mem, same⟩
      · obtain rfl := List.mem_singleton.1 hi
        exact ⟨i, by simp, by simp, .refl _⟩
    · rcases List.mem_append.1 hi with hi | hi
      · exact List.mem_append_left _ (h.asked i hi)
      · exact List.mem_append_right _ hi

theorem Shows.addAll {asked items : List InnerItem} (h : s.Shows d asked)
    (added : addAll d s items = .ok s') : s'.table = s.table ∧ s'.Shows d (asked ++ items) := by
  induction items generalizing s asked with
  | nil =>
    obtain rfl := Except.ok.inj added
    exact ⟨rfl, by rwa [List.append_nil]⟩
  | cons item items ih =>
    unfold addAll at added
    rw [List.foldlM_cons] at added
    obtain ⟨s₁, first, rest⟩ := bind_eq_ok_iff.1 added
    obtain ⟨table₁, shows₁⟩ := h.add first
    obtain ⟨table, shows⟩ := ih shows₁ rest
    exact ⟨table.trans table₁, by rwa [List.append_cons]⟩

/-- What the inner statement of a table shows. -/
theorem shows_ofTable {selection : Selection} {joins : List Link} {table : String}
    (h : ofTable d selection joins table = .ok s) :
    s.table = table ∧
      s.Shows d (requestedItems table ((selection.find? table).getD { table }) joins) :=
  (shows_empty d table).addAll h

/-! ## Groups -/

/-- If something shown is an aggregate, everything else that is shown is grouped by. -/
theorem mem_groupBy_iff {e : Expr} : e ∈ s.groupBy ↔ (∃ i ∈ s.items, i.expr.isAggregate = true) ∧
    ∃ i ∈ s.items, i.expr.isAggregate = false ∧ i.expr = e := by
  unfold groupBy aggregates
  rw [← List.any_eq_true]
  split_ifs with some_aggregate
  · simp only [List.mem_map, List.mem_filter, Bool.not_eq_true', and_assoc, some_aggregate, true_and]
  · simp only [List.not_mem_nil, some_aggregate, Bool.false_eq_true, false_and]

/-- The statement in the making that has come to the same items. -/
def draft (s : TableQuery) : TableDraft :=
  ⟨s.table, s.items, (s.items.filter (!·.expr.isAggregate)).map (·.expr), s.aggregates⟩

/-- What is kept up with an item is what is found in all items afterwards. -/
theorem draft_add (s : TableQuery) (item : InnerItem) : s.draft.add d item = (s.add d item).map draft := by
  have same_items : s.draft.items = s.items := rfl
  unfold TableDraft.add add
  rw [same_items]
  cases s.items.find? fun shown => d.sameColumn shown.aliasName item.aliasName with
  | some shown =>
    cases same : sameExpr d shown.expr item.expr <;> simp [same, Except.map, draft]
  | none =>
    cases aggregate : item.expr.isAggregate <;>
      simp [aggregate, Except.map, draft, aggregates, List.filter_append]

/-- A statement that is made item by item fails where the items do, and else has their groups. -/
theorem draft_addAll (s : TableQuery) (items : List InnerItem) :
    s.draft.addAll d items = (s.addAll d items).map draft := by
  induction items generalizing s with
  | nil => rfl
  | cons item items ih =>
    unfold TableDraft.addAll addAll
    rw [List.foldlM_cons, List.foldlM_cons, draft_add]
    cases added : s.add d item with
    | error e => rfl
    | ok s₁ => exact ih s₁

/-- Made item by item, the statement is the same one. -/
theorem query_addAll_draft (schema : Option String) (table : String) (items : List InnerItem) :
    (TableDraft.addAll d { table } items).map (·.query schema) =
      (addAll d { table } items).map (·.query schema) := by
  have made : TableDraft.addAll d { table } items = (addAll d { table } items).map draft :=
    draft_addAll { table } items
  rw [made]
  cases addAll d { table } items <;> rfl

/-! ## Names of items -/

/-- The name of an item that is asked for finds one item alone, and this one shows the same. -/
theorem Shows.filter_eq_singleton {asked : List InnerItem} (h : s.Shows d asked) {item : InnerItem}
    (mem : item ∈ asked) : ∃ i,
      (s.items.filter fun shown => d.sameColumn shown.aliasName item.aliasName) = [i] ∧
        i ∈ s.items ∧ i.expr.SameValue d item.expr := by
  obtain ⟨i, hi, same, expr⟩ := h.shown item mem
  refine ⟨i, ?_, hi, expr⟩
  rw [← filter_eq_singleton_of_nodup h.distinct hi]
  apply List.filter_congr
  intro shown _
  rw [Bool.eq_iff_iff, decide_eq_true_iff, Dialect.sameColumn_iff, Dialect.sameColumn_iff.1 same]

theorem named_query (schema : Option String) (s : TableQuery) (name : String) :
    (s.query schema).named d name =
      (s.items.filter fun shown => d.sameColumn shown.aliasName name).map fun shown =>
        ⟨shown.expr, some shown.aliasName⟩ := by
  simp [Query.named, query, Query.select, List.filter_map, Function.comp_def]

theorem Shows.named_eq_singleton {asked : List InnerItem} (h : s.Shows d asked)
    (schema : Option String) {item : InnerItem} (mem : item ∈ asked) : ∃ shown,
      (s.query schema).named d item.aliasName = [shown] ∧ shown.expr.SameValue d item.expr := by
  obtain ⟨i, one, -, same⟩ := h.filter_eq_singleton mem
  refine ⟨⟨i.expr, some i.aliasName⟩, ?_, same⟩
  rw [named_query, one, List.map_singleton]

end TableQuery

/-! ## What is asked of a table -/

section Requested

variable {r : QueryRequest} {filter : Option FilterExpr} {selection : Selection} {table : String}

theorem requestedItems_ofRequest {dimensions : List (String × Dimension)}
    {measures : List (String × Measure)} {filterColumns : List (String × String)}
    (joins : List Link) :
    requestedItems table
        (((Selection.collect dimensions measures filterColumns).find? table).getD { table }) joins =
      (Selection.ofTable table dimensions).map (fun c => .ofColumn table c.column c.aliasName) ++
        (Selection.ofTable table measures).map
          (fun c => ⟨.aggregate c.op (.ofTable table c.column), c.aliasName⟩) ++
        (joins.flatMap (·.columnsFor table)).map (fun c => .ofColumn table c c) ++
        (Selection.ofTable table filterColumns).eraseDups.map (fun c => .ofColumn table c c) := by
  rw [Selection.find?_collect, requestedItems]

/-- What a request shows is asked of the table. -/
theorem mem_requestedItems_of_asks (selected : Selection.ofRequest r filter = .ok selection)
    (joins : List Link) {aliasName : String} {e : Expr} (asks : r.Asks table aliasName e) :
    ⟨e, aliasName⟩ ∈ requestedItems table ((selection.find? table).getD { table }) joins := by
  obtain ⟨dimensions, measures, hd, hm, rfl⟩ := Selection.ofRequest_eq_ok_iff.1 selected
  rw [requestedItems_ofRequest]
  simp only [List.mem_append, List.mem_map]
  rcases (Selection.asks_iff hd hm).1 asks with ⟨column, mem, rfl⟩ | ⟨column, op, mem, rfl⟩
  · exact .inl (.inl (.inl ⟨_, Selection.mem_ofTable.2 mem, rfl⟩))
  · exact .inl (.inl (.inr ⟨_, Selection.mem_ofTable.2 mem, rfl⟩))

theorem columnsFor_left (l : Link) : l.columnsFor l.leftTable = l.leftColumns :=
  if_pos rfl

theorem columnsFor_right {l : Link} (ne : l.leftTable ≠ l.rightTable) :
    l.columnsFor l.rightTable = l.rightColumns := by
  rw [Link.columnsFor, if_neg ne.symm, if_pos rfl]

/-- What a join reads is asked of the table. -/
theorem mem_requestedItems_of_join {joins : List Link} {l : Link} (mem : l ∈ joins)
    {column : String} (reads : column ∈ l.columnsFor table) (shown : TableSelection) :
    InnerItem.ofColumn table column column ∈ requestedItems table shown joins := by
  simp only [requestedItems, List.mem_append, List.mem_map]
  exact .inl (.inr ⟨column, List.mem_flatMap_of_mem mem reads, rfl⟩)

/-- What a filter reads is asked of the table. -/
theorem mem_requestedItems_of_filter {f : FilterExpr}
    (selected : Selection.ofRequest r (some f) = .ok selection) (joins : List Link)
    {c : FilterColumn} (mem : c ∈ f.columns) :
    InnerItem.ofColumn c.table c.column c.column ∈
      requestedItems c.table ((selection.find? c.table).getD { table := c.table }) joins := by
  obtain ⟨dimensions, measures, -, -, rfl⟩ := Selection.ofRequest_eq_ok_iff.1 selected
  rw [requestedItems_ofRequest]
  have reads : (c.table, c.column) ∈ Selection.filterReads (some f) :=
    List.mem_map_of_mem (f := fun c : FilterColumn => (c.table, c.column)) mem
  have own := List.mem_eraseDups.2 (Selection.mem_ofTable.2 reads)
  simp only [List.mem_append, List.mem_map]
  exact .inr ⟨c.column, own, rfl⟩

end Requested

end Joinery
