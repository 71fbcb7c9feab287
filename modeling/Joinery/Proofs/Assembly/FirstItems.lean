import Joinery.Proofs.Assembly.Items

/-!
# The first item of each name

An inner statement keeps the first of the items that want one name, and refuses one that wants the name for
something else (`TableQuery.add_firstNamed`). Both comparisons are equivalences, so it is enough to look at
that first item: items are shown together if any two of them agree, in whatever order they are asked for
(`TableQuery.addAll_eq_ok_iff`), and otherwise the first item that does not agree with all before it is to
blame (`TableQuery.addAll_eq_error_iff`). `TableQuery.shows_first_items` adds what the rows are grouped by.
-/

namespace Joinery

open Sql

variable {d : Dialect}

/-! ## Items that agree -/

theorem Sql.Expr.SameValue.symm {a b : Expr} (h : a.SameValue d b) : b.SameValue d a := by
  cases h with
  | refl => exact .refl _
  | column same => exact .column (Dialect.sameColumn_iff.2 (Dialect.sameColumn_iff.1 same).symm)

theorem Sql.Expr.SameValue.trans {a b c : Expr} (ab : a.SameValue d b) (bc : b.SameValue d c) :
    a.SameValue d c := by
  cases ab with
  | refl => exact bc
  | column same =>
    cases bc with
    | refl => exact .column same
    | column same' =>
      exact .column (Dialect.sameColumn_iff.2
        ((Dialect.sameColumn_iff.1 same).trans (Dialect.sameColumn_iff.1 same')))

namespace InnerItem

/-- Two items have names of one column. -/
def SameName (d : Dialect) (a b : InnerItem) : Prop :=
  d.sameColumn a.aliasName b.aliasName = true

/-- Two items want different names, or show the same. -/
def Agrees (d : Dialect) (a b : InnerItem) : Prop :=
  a.SameName d b → TableQuery.sameExpr d a.expr b.expr = true

instance (a b : InnerItem) : Decidable (a.SameName d b) :=
  inferInstanceAs (Decidable (_ = true))

instance (a b : InnerItem) : Decidable (a.Agrees d b) :=
  inferInstanceAs (Decidable (_ → _))

variable {a b c : InnerItem}

theorem SameName.symm (h : a.SameName d b) : b.SameName d a :=
  Dialect.sameColumn_iff.2 (Dialect.sameColumn_iff.1 h).symm

theorem SameName.trans (ab : a.SameName d b) (bc : b.SameName d c) : a.SameName d c :=
  Dialect.sameColumn_iff.2 ((Dialect.sameColumn_iff.1 ab).trans (Dialect.sameColumn_iff.1 bc))

theorem agrees_iff : a.Agrees d b ↔ (a.SameName d b → a.expr.SameValue d b.expr) :=
  imp_congr_right fun _ => TableQuery.sameExpr_iff

theorem agrees_self (a : InnerItem) : a.Agrees d a :=
  agrees_iff.2 fun _ => .refl _

theorem Agrees.symm (h : a.Agrees d b) : b.Agrees d a :=
  agrees_iff.2 fun same => (agrees_iff.1 h same.symm).symm

/-- An item agrees with all that agree with an item of its name. -/
theorem Agrees.trans (ab : a.Agrees d b) (same : a.SameName d b) (bc : b.Agrees d c) : a.Agrees d c :=
  agrees_iff.2 fun names => (agrees_iff.1 ab same).trans (agrees_iff.1 bc (same.symm.trans names))

end InnerItem

/-- Any two of some items agree. -/
def Agreeing (d : Dialect) (items : List InnerItem) : Prop :=
  ∀ a ∈ items, ∀ b ∈ items, a.Agrees d b

instance (items : List InnerItem) : Decidable (Agreeing d items) :=
  inferInstanceAs (Decidable (∀ a ∈ items, ∀ b ∈ items, a.Agrees d b))

theorem agreeing_concat {items : List InnerItem} {item : InnerItem} :
    Agreeing d (items ++ [item]) ↔ Agreeing d items ∧ ∀ i ∈ items, i.Agrees d item := by
  constructor
  · intro h
    exact ⟨fun a ha b hb => h a (List.mem_append_left _ ha) b (List.mem_append_left _ hb),
      fun i hi => h i (List.mem_append_left _ hi) item (by simp)⟩
  · rintro ⟨all, last⟩ a ha b hb
    rcases List.mem_append.1 ha with ha | ha <;> rcases List.mem_append.1 hb with hb | hb
    · exact all a ha b hb
    · exact List.mem_singleton.1 hb ▸ last a ha
    · exact List.mem_singleton.1 ha ▸ (last b hb).symm
    · rw [List.mem_singleton.1 ha, List.mem_singleton.1 hb]
      exact item.agrees_self

theorem agreeing_of_perm {items items' : List InnerItem} (perm : items.Perm items') :
    Agreeing d items ↔ Agreeing d items' := by
  simp only [Agreeing, perm.mem_iff]

/-! ## First items -/

/-- The items whose names are not those of earlier items, in order. -/
def firstNamed (d : Dialect) (items : List InnerItem) : List InnerItem :=
  (items.zipIdx.filter fun p : InnerItem × Nat =>
    decide (∀ earlier ∈ items.take p.2, ¬ earlier.SameName d p.1)).map (·.1)

/-- One more item is shown behind the others if its name is new. -/
theorem firstNamed_concat (items : List InnerItem) (item : InnerItem) : firstNamed d (items ++ [item]) =
    if ∃ i ∈ items, i.SameName d item then firstNamed d items else firstNamed d items ++ [item] := by
  have front : (items.zipIdx.filter fun p : InnerItem × Nat =>
        decide (∀ earlier ∈ (items ++ [item]).take p.2, ¬ earlier.SameName d p.1)) =
      items.zipIdx.filter fun p : InnerItem × Nat =>
        decide (∀ earlier ∈ items.take p.2, ¬ earlier.SameName d p.1) := by
    apply List.filter_congr
    intro p mem
    have inside : p.2 < items.length := by simpa using List.snd_lt_add_of_mem_zipIdx mem
    rw [List.take_append_of_le_length (Nat.le_of_lt inside)]
  have whole : (items ++ [item]).take items.length = items := List.take_left
  rw [firstNamed, List.zipIdx_append, List.filter_append, front, List.map_append, ← firstNamed]
  by_cases old : ∃ i ∈ items, i.SameName d item
  · rw [if_pos old, List.zipIdx_singleton, List.filter_cons_of_neg (by simpa [whole] using old)]
    exact List.append_nil _
  · rw [if_neg old, List.zipIdx_singleton, List.filter_cons_of_pos (by simpa [whole] using old)]
    rfl

theorem firstNamed_of_old {items : List InnerItem} {item : InnerItem}
    (old : ∃ i ∈ items, i.SameName d item) : firstNamed d (items ++ [item]) = firstNamed d items := by
  rw [firstNamed_concat, if_pos old]

theorem firstNamed_of_new {items : List InnerItem} {item : InnerItem}
    (new : ∀ i ∈ items, ¬ i.SameName d item) :
    firstNamed d (items ++ [item]) = firstNamed d items ++ [item] := by
  rw [firstNamed_concat, if_neg]
  rintro ⟨i, hi, same⟩
  exact new i hi same

theorem mem_of_mem_firstNamed {items : List InnerItem} {item : InnerItem}
    (mem : item ∈ firstNamed d items) : item ∈ items := by
  obtain ⟨p, hp, rfl⟩ := List.mem_map.1 mem
  exact List.fst_mem_of_mem_zipIdx (List.mem_of_mem_filter hp)

/-- Every item has the name of one that is shown. -/
theorem exists_firstNamed {items : List InnerItem} {item : InnerItem} (mem : item ∈ items) :
    ∃ shown ∈ firstNamed d items, shown.SameName d item := by
  induction items using List.reverseRecOn generalizing item with
  | nil => cases mem
  | append_singleton items last ih =>
    by_cases old : ∃ i ∈ items, i.SameName d last
    · rw [firstNamed_of_old old]
      rcases List.mem_append.1 mem with mem | mem
      · exact ih mem
      · obtain rfl := List.mem_singleton.1 mem
        obtain ⟨i, hi, same⟩ := old
        obtain ⟨shown, hs, same'⟩ := ih hi
        exact ⟨shown, hs, same'.trans same⟩
    · rw [firstNamed_of_new (by simpa using old)]
      rcases List.mem_append.1 mem with mem | mem
      · obtain ⟨shown, hs, same⟩ := ih mem
        exact ⟨shown, List.mem_append_left _ hs, same⟩
      · exact ⟨item, List.mem_append_right _ mem, Dialect.sameColumn_self d _⟩

/-- The names that are shown differ. -/
theorem pairwise_firstNamed (d : Dialect) (items : List InnerItem) :
    (firstNamed d items).Pairwise fun a b => ¬ a.SameName d b := by
  induction items using List.reverseRecOn with
  | nil => exact .nil
  | append_singleton items last ih =>
    by_cases old : ∃ i ∈ items, i.SameName d last
    · rwa [firstNamed_of_old old]
    · have new : ∀ i ∈ items, ¬ i.SameName d last := by simpa using old
      rw [firstNamed_of_new new]
      refine List.pairwise_append.2 ⟨ih, List.pairwise_singleton _ _, ?_⟩
      intro a ha b hb
      rw [List.mem_singleton.1 hb]
      exact new a (mem_of_mem_firstNamed ha)

/-! ## Statements show first items -/

namespace TableQuery

variable {table : String} {items : List InnerItem}

/-- An item is compared with the first one of its name, and this one speaks for all others. -/
theorem add_firstNamed (agreeing : Agreeing d items) (item : InnerItem) :
    add d ⟨table, firstNamed d items⟩ item = if ∀ i ∈ items, i.Agrees d item then
      .ok ⟨table, firstNamed d (items ++ [item])⟩ else .error (.aliasConflict table item.aliasName) := by
  unfold add
  cases found : (firstNamed d items).find? fun shown => d.sameColumn shown.aliasName item.aliasName with
  | none =>
    have unseen := List.find?_eq_none.1 found
    have new : ∀ i ∈ items, ¬ i.SameName d item := by
      intro i hi same
      obtain ⟨shown, hs, same'⟩ := exists_firstNamed (d := d) hi
      exact unseen shown hs (same'.trans same)
    have all : ∀ i ∈ items, i.Agrees d item := fun i hi same => absurd same (new i hi)
    rw [if_pos all, firstNamed_of_new new]
  | some shown =>
    have mem := mem_of_mem_firstNamed (List.mem_of_find?_eq_some found)
    have aliases := List.find?_some found
    have same : shown.SameName d item := aliases
    have decides : sameExpr d shown.expr item.expr = true ↔ ∀ i ∈ items, i.Agrees d item := by
      constructor
      · intro equal i hi
        by_cases names : i.SameName d item
        · have agrees : shown.Agrees d item := fun _ => equal
          exact (agreeing i hi shown mem).trans (names.trans same.symm) agrees
        · exact fun h => absurd h names
      · intro all
        exact all shown mem same
    rw [firstNamed_of_old ⟨shown, mem, same⟩]
    exact if_congr decides rfl rfl

theorem addAll_eq_ok_iff {s : TableQuery} :
    addAll d { table } items = .ok s ↔ Agreeing d items ∧ s = ⟨table, firstNamed d items⟩ := by
  induction items using List.reverseRecOn generalizing s with
  | nil =>
    have shows_nothing : addAll d { table } [] = .ok ⟨table, firstNamed d []⟩ := rfl
    rw [shows_nothing, Except.ok.injEq, eq_comm]
    exact ⟨fun eq => ⟨nofun, eq⟩, fun h => h.2⟩
  | append_singleton items item ih =>
    have last : ∀ s₁, addAll d s₁ [item] = add d s₁ item := by
      intro s₁
      rw [addAll, List.foldlM_cons]
      cases add d s₁ item <;> rfl
    rw [addAll_append, agreeing_concat]
    constructor
    · rintro ⟨s₁, front, added⟩
      obtain ⟨agreeing, rfl⟩ := ih.1 front
      rw [last, add_firstNamed agreeing] at added
      split_ifs at added with all
      exact ⟨⟨agreeing, all⟩, (Except.ok.inj added).symm⟩
    · rintro ⟨⟨agreeing, all⟩, rfl⟩
      refine ⟨_, ih.2 ⟨agreeing, rfl⟩, ?_⟩
      rw [last, add_firstNamed agreeing, if_pos all]

/-- The first item that does not agree with all before it is to blame. -/
theorem addAll_eq_error_iff {e : AssemblyError} : addAll d { table } items = .error e ↔
    ∃ before item after, items = before ++ item :: after ∧ Agreeing d before ∧
      (∃ i ∈ before, ¬ i.Agrees d item) ∧ e = .aliasConflict table item.aliasName := by
  have start : ∀ before s, List.foldlM (add d) { table } before = .ok s ↔
      Agreeing d before ∧ s = ⟨table, firstNamed d before⟩ := fun before s => addAll_eq_ok_iff
  rw [addAll, foldlM_eq_error_iff]
  constructor
  · rintro ⟨before, item, after, s, rfl, front, refused⟩
    obtain ⟨agreeing, rfl⟩ := (start before s).1 front
    rw [add_firstNamed agreeing] at refused
    split_ifs at refused with all
    exact ⟨before, item, after, rfl, agreeing, by simpa using all, (Except.error.inj refused).symm⟩
  · rintro ⟨before, item, after, rfl, agreeing, ⟨i, hi, conflict⟩, rfl⟩
    refine ⟨before, item, after, _, rfl, (start before _).2 ⟨agreeing, rfl⟩, ?_⟩
    rw [add_firstNamed agreeing, if_neg fun all => conflict (all i hi)]

/-! ## Grouping -/

theorem isAggregate_eq_of_sameValue {a b : Expr} (h : a.SameValue d b) :
    a.isAggregate = b.isAggregate := by
  cases h <;> rfl

/-- What agrees with an aggregate under its name is that aggregate, so no aggregate is left out. -/
theorem exists_aggregate_firstNamed (agreeing : Agreeing d items) :
    (∃ i ∈ firstNamed d items, i.expr.isAggregate = true) ↔ ∃ i ∈ items, i.expr.isAggregate = true := by
  constructor
  · rintro ⟨i, hi, aggregate⟩
    exact ⟨i, mem_of_mem_firstNamed hi, aggregate⟩
  · rintro ⟨i, hi, aggregate⟩
    obtain ⟨shown, hs, same⟩ := exists_firstNamed (d := d) hi
    have value := InnerItem.agrees_iff.1 (agreeing shown (mem_of_mem_firstNamed hs) i hi) same
    exact ⟨shown, hs, (isAggregate_eq_of_sameValue value).trans aggregate⟩

theorem exists_aggregate_requestedItems {shown : TableSelection} {joins : List Link} :
    (∃ i ∈ requestedItems table shown joins, i.expr.isAggregate = true) ↔ shown.measures ≠ [] := by
  constructor
  · rintro ⟨i, hi, aggregate⟩
    simp only [requestedItems, List.mem_append, List.mem_map] at hi
    rcases hi with ((⟨c, -, rfl⟩ | ⟨c, hc, -⟩) | ⟨c, -, rfl⟩) | ⟨c, -, rfl⟩
    · cases aggregate
    · exact List.ne_nil_of_mem hc
    · cases aggregate
    · cases aggregate
  · intro some_measure
    obtain ⟨c, hc⟩ := List.exists_mem_of_ne_nil _ some_measure
    refine ⟨⟨.aggregate c.op (.ofTable table c.column), c.aliasName⟩, ?_, rfl⟩
    simp only [requestedItems, List.mem_append, List.mem_map]
    exact .inl (.inl (.inr ⟨c, hc, rfl⟩))

/-- A statement selects from a table the first of the items of each name, in order. If one of them is an
aggregate, it groups by all the others, in order. -/
structure SelectsFirst (d : Dialect) (schema : Option String) (table : String) (asked : List InnerItem)
    (s : TableQuery) : Prop where
  items : s.items = firstNamed d asked
  distinct : s.items.Pairwise fun a b => d.sameColumn a.aliasName b.aliasName = false
  select : (s.query schema).select = s.items.map fun i => ⟨i.expr, some i.aliasName⟩
  grouped : (∃ i ∈ s.items, i.expr.isAggregate = true) →
    (s.query schema).groupBy = (s.items.map (·.expr)).filter (!·.isAggregate)
  ungrouped : (∀ i ∈ s.items, i.expr.isAggregate = false) → (s.query schema).groupBy = []
  aggregates : (∃ i ∈ s.items, i.expr.isAggregate = true) ↔ ∃ i ∈ asked, i.expr.isAggregate = true
  /-- The clause that groups the rows is written last, and not at all if there is nothing to group by. -/
  written : ∀ depth, (s.query schema).tokensAt depth =
    Query.selectTokens depth (s.query schema).select ++ [.line depth, .keyword .from, .space] ++
      TableName.tokens ⟨schema, table⟩ ++ Query.groupByTokens depth (s.query schema).groupBy

theorem selectsFirst_of_agreeing (schema : Option String) (agreeing : Agreeing d items) :
    SelectsFirst d schema table items ⟨table, firstNamed d items⟩ where
  items := rfl
  distinct := (pairwise_firstNamed d items).imp fun ne => Bool.eq_false_iff.2 ne
  select := rfl
  grouped some_aggregate := by
    have aggregates : (firstNamed d items).any (·.expr.isAggregate) = true :=
      List.any_eq_true.2 some_aggregate
    rw [List.filter_map]
    exact if_pos aggregates
  ungrouped no_aggregate := by
    have none_there : ¬ (firstNamed d items).any (·.expr.isAggregate) = true := by
      rw [List.any_eq_true]
      rintro ⟨i, hi, aggregate⟩
      rw [no_aggregate i hi] at aggregate
      cases aggregate
    exact if_neg none_there
  aggregates := exists_aggregate_firstNamed agreeing
  written depth := by
    show Query.tokensAt depth (.mk _ _ none _) = _
    simp only [Query.tokensAt, Source.tokensAt, Query.conditionTokens, List.append_nil]
    rfl

/-- What is asked of a table can be shown if any two items of one name show the same, in whatever order it
is asked for. Then the first items of all names are shown, and where measures are asked for, the rows are
grouped by everything else that is shown. -/
theorem shows_first_items (d : Dialect) (schema : Option String) (table : String)
    (shown : TableSelection) (joins : List Link) :
    ((∃ s, addAll d { table } (requestedItems table shown joins) = .ok s) ↔
      ∀ a ∈ requestedItems table shown joins, ∀ b ∈ requestedItems table shown joins,
        d.sameColumn a.aliasName b.aliasName = true → sameExpr d a.expr b.expr = true) ∧
    (∀ items, items.Perm (requestedItems table shown joins) →
      ((∃ s, addAll d { table } items = .ok s) ↔
        ∃ s, addAll d { table } (requestedItems table shown joins) = .ok s)) ∧
    ∀ s, addAll d { table } (requestedItems table shown joins) = .ok s →
      SelectsFirst d schema table (requestedItems table shown joins) s ∧
        ((∃ i ∈ s.items, i.expr.isAggregate = true) ↔ shown.measures ≠ []) := by
  have shown_iff : ∀ items, (∃ s, addAll d { table } items = .ok s) ↔ Agreeing d items := by
    intro items
    simp only [addAll_eq_ok_iff, exists_and_left, exists_eq, and_true]
  refine ⟨shown_iff _, ?_, ?_⟩
  · intro items perm
    rw [shown_iff, shown_iff]
    exact agreeing_of_perm perm
  · intro s added
    obtain ⟨agreeing, rfl⟩ := addAll_eq_ok_iff.1 added
    have selects : SelectsFirst d schema table _ ⟨table, firstNamed d _⟩ :=
      selectsFirst_of_agreeing schema agreeing
    exact ⟨selects, selects.aggregates.trans exists_aggregate_requestedItems⟩

/-- The facts of each term, as `Term_ID`, and their sum. Terms are joined by the same column. -/
def unitsOfTerm : List InnerItem :=
  requestedItems "fact" ⟨"fact", [⟨"term_id", "Term_ID"⟩], [⟨"units", .sum, "Units"⟩], ["TERM_ID"]⟩
    [⟨"fact", "term", ["term_id"], ["id"]⟩]

/-- Where case makes no difference, the column of the join and that of the filter are shown already. -/
theorem term_shown_once : ∃ s, addAll .tsql { table := "fact" } unitsOfTerm = .ok s ∧
    s.items.map (·.aliasName) = ["Term_ID", "Units"] ∧
    (s.query none).groupBy = [.ofTable "fact" "term_id"] ∧
    ∃ s', addAll .tsql { table := "fact" } unitsOfTerm.reverse = .ok s' := by
  obtain ⟨success, reordered, selects⟩ := shows_first_items .tsql none "fact"
    ⟨"fact", [⟨"term_id", "Term_ID"⟩], [⟨"units", .sum, "Units"⟩], ["TERM_ID"]⟩
    [⟨"fact", "term", ["term_id"], ["id"]⟩]
  obtain ⟨s, added⟩ := success.2 (by decide)
  obtain ⟨first, aggregates⟩ := selects s added
  refine ⟨s, added, ?_, ?_, (reordered _ (List.reverse_perm _)).2 ⟨s, added⟩⟩
  · rw [first.items]
    decide
  · rw [first.grouped (aggregates.2 (by simp)), first.items]
    decide

end TableQuery

end Joinery
