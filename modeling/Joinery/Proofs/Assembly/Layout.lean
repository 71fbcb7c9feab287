import Joinery.Proofs.Assembly.Items
import Joinery.Proofs.Assembly.Statement

/-!
# Layouts of statements

The source of a statement is made of one inner statement for each table: that of the first table, to
which joins bring in the others. `Layout` keeps the tables and those joins, and `exists_layout` finds the
layout of every statement that was put together.
-/

namespace Joinery

open Sql Assembly

/-! ## Joins that bring in a table -/

/-- The joins that bring in a table: earlier ones had not both of their tables. -/
def introducing : (seen : List String) → List Link → List Link
  | _, [] => []
  | seen, l :: ls =>
    if l.leftTable ∈ seen ∧ l.rightTable ∈ seen then introducing seen ls
    else l :: introducing (seen ++ [l.leftTable, l.rightTable]) ls

theorem introducing_congr {seen seen' : List String} (same : ∀ t, t ∈ seen ↔ t ∈ seen')
    (ls : List Link) : introducing seen ls = introducing seen' ls := by
  induction ls generalizing seen seen' with
  | nil => rfl
  | cons l ls ih =>
    have next : ∀ t, t ∈ seen ++ [l.leftTable, l.rightTable] ↔
        t ∈ seen' ++ [l.leftTable, l.rightTable] := by
      intro t
      rw [List.mem_append, List.mem_append, same]
    simp only [introducing, same, ih same, ih next]

theorem map_entering {seen : List String} {ls : List Link} (growing : Growing seen ls) :
    (entering seen ls).map (·.1) = introducing seen ls := by
  induction ls generalizing seen with
  | nil => rfl
  | cons l ls ih =>
    obtain ⟨touches, growing⟩ := growing
    rw [entering_cons, List.map_append, ih growing, introducing]
    by_cases left : l.leftTable ∈ seen <;> by_cases right : l.rightTable ∈ seen
    · simp [entering, left, right]
    · have same : ∀ t, t ∈ seen ++ [l.rightTable] ↔ t ∈ seen ++ [l.leftTable, l.rightTable] := by
        grind
      simp [entering, left, right, introducing_congr same]
    · have same : ∀ t, t ∈ seen ++ [l.leftTable] ↔ t ∈ seen ++ [l.leftTable, l.rightTable] := by
        grind
      simp [entering, left, right, introducing_congr same]
    · exact absurd touches (by simp [left, right])

theorem introducing_first (l : Link) (ls : List Link) (ne : l.leftTable ≠ l.rightTable) :
    introducing [] (l :: ls) = introducing [l.leftTable] (l :: ls) := by
  have same : ∀ t, t ∈ [l.leftTable, l.rightTable] ↔
      t ∈ [l.leftTable, l.leftTable, l.rightTable] := by simp
  simp [introducing, ne.symm, introducing_congr same]

/-- A join with a table that is not there brings it in. -/
theorem mem_introducing_append_cons {seen : List String} (before : List Link) {after : List Link}
    {l : Link} (new : ∃ t, l.edge.touches t ∧ t ∉ seen ∧ ∀ m ∈ before, ¬ m.edge.touches t) :
    l ∈ introducing seen (before ++ l :: after) := by
  obtain ⟨t, touches, unseen, unnamed⟩ := new
  induction before generalizing seen with
  | nil =>
    have enters : ¬ (l.leftTable ∈ seen ∧ l.rightTable ∈ seen) := by
      rintro ⟨left, right⟩
      rcases JoinEdge.touches_iff.1 touches with rfl | rfl
      · exact unseen left
      · exact unseen right
    rw [List.nil_append, introducing, if_neg enters]
    exact List.mem_cons_self
  | cons m before ih =>
    rw [List.forall_mem_cons] at unnamed
    rw [List.cons_append, introducing]
    split_ifs
    · exact ih unseen unnamed.2
    · have still_new : t ∉ seen ++ [m.leftTable, m.rightTable] := by
        rw [JoinEdge.touches_iff, not_or] at unnamed
        simp only [List.mem_append, List.mem_pair, not_or]
        exact ⟨unseen, fun e => unnamed.1.1 e.symm, fun e => unnamed.1.2 e.symm⟩
      exact List.mem_cons_of_mem m (ih still_new unnamed.2)

/-- Each join brings in a table that is not there, and its other table is. -/
def Grows : (seen : List String) → List (Link × String) → Prop
  | _, [] => True
  | seen, (l, table) :: es =>
    table ∉ seen ∧ (table = l.rightTable ∧ l.leftTable ∈ seen ∨
      table = l.leftTable ∧ l.rightTable ∈ seen) ∧ Grows (seen ++ [table]) es

theorem grows_entering {seen : List String} {ls : List Link} (growing : Growing seen ls) :
    Grows seen (entering seen ls) := by
  induction ls generalizing seen with
  | nil => trivial
  | cons l ls ih =>
    obtain ⟨touches, growing⟩ := growing
    have rest := ih growing
    by_cases left : l.leftTable ∈ seen <;> by_cases right : l.rightTable ∈ seen
    · simpa [entering, left, right] using rest
    · simpa [entering, left, right, Grows] using rest
    · simpa [entering, left, right, Grows] using rest
    · exact absurd touches (by simp [left, right])

/-- When a join brings in its table, both of its tables are there. -/
theorem Grows.ends {seen : List String} {before after : List (Link × String)} {e : Link × String}
    (grows : Grows seen (before ++ e :: after)) :
    e.1.leftTable ∈ seen ++ (before ++ [e]).map (·.2) ∧
      e.1.rightTable ∈ seen ++ (before ++ [e]).map (·.2) := by
  induction before generalizing seen with
  | nil =>
    obtain ⟨-, ⟨new, old⟩ | ⟨new, old⟩, -⟩ := grows
    · simp [old, new]
    · simp [old, new]
  | cons f before ih => simpa using ih grows.2.2

theorem mem_of_mem_entering {seen : List String} {ls : List Link} {e : Link × String}
    (mem : e ∈ entering seen ls) : e.1 ∈ ls := by
  induction ls generalizing seen with
  | nil => cases mem
  | cons l ls ih =>
    rw [entering_cons] at mem
    rcases List.mem_append.1 mem with mem | mem
    · unfold entering at mem
      split_ifs at mem <;> simp_all [entering]
    · exact List.mem_cons_of_mem l (ih mem)

/-! ## Layouts -/

/-- The first table of a source, and the joins that bring in the others. -/
structure Layout where
  base : String
  joins : List (Link × String)

namespace Layout

/-- The tables in the order in which they come in. -/
def tables (y : Layout) : List String :=
  y.base :: y.joins.map (·.2)

/-- The chain of all joins. -/
def chain (y : Layout) (source : String → Source) : JoinChain :=
  chainFrom source (.base (source y.base)) y.joins

/-- What rows are taken from when the tables are given by these sources. -/
def source (y : Layout) (source : String → Source) : Source :=
  if y.joins = [] then source y.base else .nested (y.chain source)

theorem tables_eq_append {y : Layout} {before after : List (Link × String)} {e : Link × String}
    (eq : y.joins = before ++ e :: after) :
    y.tables = (y.base :: (before ++ [e]).map (·.2)) ++ after.map (·.2) := by
  simp [tables, eq]

end Layout

/-- A statement is laid out for a selection and the joins of a path. -/
structure Assembled.LaidOut (d : Dialect) (schema : Option String) (selection : Selection)
    (joins : List Link) (filter : Option String) (y : Layout) (inner : String → TableQuery)
    (a : Assembled) : Prop where
  query : a.query = outerQuery selection (y.source fun t => (inner t).source schema) filter
  columns : a.columns = selection.outputs
  tables : a.tables = y.tables
  nodup : y.tables.Nodup
  entered : y.joins.map (·.1) = introducing [] joins
  mem : ∀ e ∈ y.joins, e.1 ∈ joins
  grows : Grows [y.base] y.joins
  covers : ∀ p ∈ selection.tables, p.table ∈ y.tables
  inner : ∀ t ∈ y.tables, TableQuery.ofTable d selection joins t = .ok (inner t)

variable {d : Dialect} {schema : Option String} {selection : Selection} {joins : List Link}
  {filter : Option String} {a : Assembled}

namespace Assembled.LaidOut

variable {y : Layout} {inner : String → TableQuery}

/-- The inner statement of a table shows what is asked of it. -/
theorem shows (h : a.LaidOut d schema selection joins filter y inner) {t : String}
    (mem : t ∈ y.tables) : (inner t).table = t ∧ (inner t).Shows d
      (requestedItems t ((selection.find? t).getD { table := t }) joins) :=
  TableQuery.shows_ofTable (h.inner t mem)

theorem covers_required (h : a.LaidOut d schema selection joins filter y inner) {t : String}
    (mem : t ∈ selection.requiredTables) : t ∈ y.tables := by
  obtain ⟨p, hp, rfl⟩ := List.mem_map.1 mem
  exact h.covers p hp

/-- When a join brings in a table, both of its tables are there. -/
theorem ends_at (h : a.LaidOut d schema selection joins filter y inner)
    {before after : List (Link × String)} {e : Link × String}
    (eq : y.joins = before ++ e :: after) :
    e.1.leftTable ∈ y.base :: (before ++ [e]).map (·.2) ∧
      e.1.rightTable ∈ y.base :: (before ++ [e]).map (·.2) := by
  have grows := h.grows
  rw [eq] at grows
  exact grows.ends

theorem ends (h : a.LaidOut d schema selection joins filter y inner) {l : Link}
    (mem : l ∈ y.joins.map (·.1)) : l.leftTable ∈ y.tables ∧ l.rightTable ∈ y.tables := by
  obtain ⟨e, he, rfl⟩ := List.mem_map.1 mem
  obtain ⟨before, after, eq⟩ := List.append_of_mem he
  rw [Layout.tables_eq_append eq]
  exact ⟨List.mem_append_left _ (h.ends_at eq).1, List.mem_append_left _ (h.ends_at eq).2⟩

end Assembled.LaidOut

/-! ## Every statement has a layout -/

theorem innerOf_of_mapM {tables : List String} {selects : List TableQuery}
    (made : tables.mapM (TableQuery.ofTable d selection joins) = .ok selects) {t : String}
    (mem : t ∈ tables) : TableQuery.ofTable d selection joins t = .ok (innerOf selects t) := by
  obtain ⟨s, s_mem, s_made⟩ := exists_of_mem_of_mapM made mem
  have own : s.table = t := (TableQuery.shows_ofTable s_made).1
  unfold innerOf
  cases found : selects.find? (·.table = t) with
  | none =>
    have absent := List.find?_eq_none.1 found s s_mem
    exact absurd own (by simpa using absent)
  | some s' =>
    obtain ⟨t', -, made'⟩ := exists_of_mem_result made (List.mem_of_find?_eq_some found)
    have own' : s'.table = t' := (TableQuery.shows_ofTable made').1
    have same : s'.table = t := by simpa using List.find?_some found
    rw [Option.getD_some, ← same, own']
    exact made'

/-- A statement that was put together is laid out along the joins that bring in a table. -/
theorem exists_layout (ne : ∀ l ∈ joins, l.leftTable ≠ l.rightTable)
    (h : assemble d schema selection joins filter = .ok a) :
    ∃ y inner, a.LaidOut d schema selection joins filter y inner := by
  obtain ⟨-, checked, tables, selects, source, tables_ok, made, source_ok, rfl⟩ :=
    assemble_eq_ok_iff.1 h
  obtain ⟨-, ⟨rfl, only, selected, rfl⟩ | ⟨some_join, covered, rfl⟩⟩ := tablesOf_eq_ok_iff.1 tables_ok
  · have inner : ∀ t ∈ [only.table], TableQuery.ofTable d selection [] t = .ok (innerOf selects t) :=
      fun t mem => innerOf_of_mapM made mem
    refine ⟨⟨only.table, []⟩, innerOf selects, ?_, rfl, rfl, List.nodup_singleton _, rfl, nofun,
      trivial, ?_, inner⟩
    · obtain ⟨s, rest, s_made, no_more, rfl⟩ := List.forall₂_cons_left_iff.1 (mapM_eq_ok_iff.1 made)
      obtain rfl := List.forall₂_nil_left_iff.1 no_more
      have own : s.table = only.table := (TableQuery.shows_ofTable s_made).1
      obtain rfl := Except.ok.inj source_ok
      simp [Layout.source, innerOf, own]
    · intro p mem
      rw [selected, List.mem_singleton] at mem
      rw [mem]
      exact List.mem_singleton_self _
  · cases joins with
    | nil => exact absurd rfl some_join
    | cons l ls =>
      have first_ne := ne l (by simp)
      obtain ⟨growing, rfl⟩ := (source_eq_ok_iff first_ne checked).1 source_ok
      rw [joinedTables_eq growing] at made covered
      have nonempty : entering [l.leftTable] (l :: ls) ≠ [] := by
        simp [entering, first_ne.symm]
      refine ⟨⟨l.leftTable, entering [l.leftTable] (l :: ls)⟩, innerOf selects, ?_, rfl,
        joinedTables_eq growing, ?_, ?_, fun e => mem_of_mem_entering, grows_entering growing, covered,
        fun t mem => innerOf_of_mapM made mem⟩
      · simp [Layout.source, nonempty, Layout.chain]
      · rw [Layout.tables, ← joinedTables_eq growing]
        exact nodup_eraseDups _
      · rw [introducing_first l ls first_ne, map_entering growing]

end Joinery
