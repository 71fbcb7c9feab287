import Joinery.Proofs.Assembly.FirstItems
import Joinery.Proofs.Assembly.Statement

/-!
# The first fault of a statement

A statement is put together if its parts meet five conditions (`Assemblable`), and otherwise it is refused
for the first check that fails (`FirstFault`). `assembles_or_first_fault` says that there is no other way to
end. While a chain is built, it holds the tables of the joins so far (`Holds.growing`), so a join is refused
exactly where it shares no table with an earlier one (`source_eq_error_iff`).
-/

namespace Joinery

open Sql Assembly

/-! ## What is checked -/

/-- A join has as many columns on one side as on the other, and one at least. -/
def Link.Paired (l : Link) : Prop :=
  l.leftColumns.length = l.rightColumns.length ∧ l.leftColumns ≠ []

/-- The items that are asked of a table. -/
def Selection.asked (selection : Selection) (joins : List Link) (table : String) : List InnerItem :=
  requestedItems table ((selection.find? table).getD { table }) joins

/-- The tables that rows are taken from: those of the joins, and without joins those selected. -/
def participants (selection : Selection) (joins : List Link) : List String :=
  if joins = [] then selection.requiredTables else joinedTables joins

/-- There is a selected table, and every such table takes part: some join names it, or it is the only
one. -/
def Reached (selection : Selection) (joins : List Link) : Prop :=
  joins = [] ∧ selection.tables.length = 1 ∨
    joins ≠ [] ∧ selection.tables ≠ [] ∧ ∀ p ∈ selection.tables, ∃ l ∈ joins, l.edge.touches p.table

/-- What has to hold of the parts of a statement. -/
structure Assemblable (d : Dialect) (selection : Selection) (joins : List Link) : Prop where
  outputs : selection.outputs ≠ []
  paired : ∀ l ∈ joins, l.Paired
  reached : Reached selection joins
  /-- Every join but the first shares a table with an earlier one. -/
  attached : JoinPath.Attached (joins.map (·.edge))
  /-- No two items of one table want one name for different things. -/
  agreeing : ∀ t ∈ participants selection joins, Agreeing d (selection.asked joins t)

/-- The first check that fails, and the error that it gives. -/
inductive FirstFault (d : Dialect) (selection : Selection) (joins : List Link) : AssemblyError → Prop
  | nothing (outputs : selection.outputs = []) (tables : selection.tables = []) :
    FirstFault d selection joins .emptyProjection
  | noOutputs (outputs : selection.outputs = []) (tables : selection.tables ≠ []) :
    FirstFault d selection joins .noOutputColumns
  | columnCounts {before after : List Link} {l : Link} (outputs : selection.outputs ≠ [])
    (at_join : joins = before ++ l :: after) (paired : ∀ m ∈ before, m.Paired)
    (counts : l.leftColumns.length ≠ l.rightColumns.length) : FirstFault d selection joins
      (.columnCounts l.leftTable l.rightTable l.leftColumns.length l.rightColumns.length)
  | emptyCondition {before after : List Link} {l : Link} (outputs : selection.outputs ≠ [])
    (at_join : joins = before ++ l :: after) (paired : ∀ m ∈ before, m.Paired)
    (left : l.leftColumns = []) (right : l.rightColumns = []) :
    FirstFault d selection joins (.emptyCondition l.leftTable l.rightTable)
  | noTable (outputs : selection.outputs ≠ []) (paired : ∀ l ∈ joins, l.Paired)
    (tables : selection.tables = []) : FirstFault d selection joins .emptyProjection
  | secondTable {first second : TableSelection} {rest : List TableSelection}
    (outputs : selection.outputs ≠ []) (no_join : joins = [])
    (tables : selection.tables = first :: second :: rest) :
    FirstFault d selection joins (.tableNotInPath second.table)
  | missing {before after : List TableSelection} {p : TableSelection}
    (outputs : selection.outputs ≠ []) (paired : ∀ l ∈ joins, l.Paired) (some_join : joins ≠ [])
    (tables : selection.tables = before ++ p :: after)
    (there : ∀ q ∈ before, ∃ l ∈ joins, l.edge.touches q.table)
    (absent : ∀ l ∈ joins, ¬ l.edge.touches p.table) :
    FirstFault d selection joins (.tableNotInPath p.table)
  | conflict {before after : List String} {t : String} {front back : List InnerItem} {item : InnerItem}
    (outputs : selection.outputs ≠ []) (paired : ∀ l ∈ joins, l.Paired)
    (reached : Reached selection joins) (tables : participants selection joins = before ++ t :: after)
    (agreeing : ∀ u ∈ before, Agreeing d (selection.asked joins u))
    (items : selection.asked joins t = front ++ item :: back) (first : Agreeing d front)
    (refused : ∃ i ∈ front, ¬ i.Agrees d item) :
    FirstFault d selection joins (.aliasConflict t item.aliasName)
  | disconnected {before after : List Link} {l : Link} (outputs : selection.outputs ≠ [])
    (paired : ∀ l ∈ joins, l.Paired) (reached : Reached selection joins)
    (agreeing : ∀ t ∈ participants selection joins, Agreeing d (selection.asked joins t))
    (at_join : joins = before ++ l :: after) (behind : before ≠ [])
    (attached : JoinPath.Attached (before.map (·.edge)))
    (apart : ∀ m ∈ before, ¬ JoinPath.Meets m.edge l.edge) :
    FirstFault d selection joins (.disconnectedEdge l.leftTable l.rightTable)

variable {d : Dialect} {schema : Option String} {selection : Selection} {joins : List Link}
  {filter : Option String} {e : AssemblyError}

/-! ## Joins and tables -/

theorem checkJoin_eq_ok_iff_paired {l : Link} : checkJoin l = .ok () ↔ l.Paired :=
  checkJoin_eq_ok_iff.trans and_comm

theorem checkJoin_eq_error_iff {l : Link} : checkJoin l = .error e ↔
    l.leftColumns.length ≠ l.rightColumns.length ∧
        e = .columnCounts l.leftTable l.rightTable l.leftColumns.length l.rightColumns.length ∨
      l.leftColumns = [] ∧ l.rightColumns = [] ∧ e = .emptyCondition l.leftTable l.rightTable := by
  unfold checkJoin
  split_ifs with counts empty
  · have not_both : ¬ (l.leftColumns = [] ∧ l.rightColumns = []) := by
      rintro ⟨left, right⟩
      rw [left, right] at counts
      exact counts rfl
    simp only [Except.error.injEq]
    tauto
  · have left := List.isEmpty_iff.1 empty
    have right : l.rightColumns = [] := by
      rw [← List.length_eq_zero_iff, ← not_not.1 counts, left, List.length_nil]
    simp [left, right, eq_comm]
  · have some_column : l.leftColumns ≠ [] := fun none_left => empty (List.isEmpty_iff.2 none_left)
    simp [counts, some_column]

theorem tablesOf_eq_ok_iff_reached {tables : List String} : tablesOf selection joins = .ok tables ↔
    Reached selection joins ∧ tables = participants selection joins := by
  simp only [tablesOf_eq_ok_iff, mem_joinedTables_iff, Reached, participants]
  by_cases none_left : joins = []
  · rw [if_pos none_left]
    simp only [none_left, ne_eq, not_true_eq_false, false_and, or_false, true_and, List.length_eq_one_iff]
    constructor
    · rintro ⟨-, only, selected, rfl⟩
      exact ⟨⟨only, selected⟩, by rw [Selection.requiredTables, selected]; rfl⟩
    · rintro ⟨⟨only, selected⟩, rfl⟩
      exact ⟨by rw [selected]; simp, only, selected, by rw [Selection.requiredTables, selected]; rfl⟩
  · rw [if_neg none_left]
    simp only [none_left, ne_eq, not_false_eq_true, false_and, false_or, true_and, and_assoc]

/-- The first selected table that no join names. -/
theorem find?_missing_eq_some_iff {tables : List TableSelection} {p : TableSelection} :
    (tables.find? fun p => !(joinedTables joins).contains p.table) = some p ↔
      ∃ before after, tables = before ++ p :: after ∧
        (∀ q ∈ before, ∃ l ∈ joins, l.edge.touches q.table) ∧
        ∀ l ∈ joins, ¬ l.edge.touches p.table := by
  have missing : ∀ q : TableSelection, (!(joinedTables joins).contains q.table) = true ↔
      ¬ ∃ l ∈ joins, l.edge.touches q.table := by
    intro q
    rw [Bool.not_eq_true', ← Bool.not_eq_true, List.contains_iff_mem, mem_joinedTables_iff]
  have named : ∀ q : TableSelection, (!!(joinedTables joins).contains q.table) = true ↔
      ∃ l ∈ joins, l.edge.touches q.table := by
    intro q
    rw [Bool.not_not, List.contains_iff_mem, mem_joinedTables_iff]
  simp only [List.find?_eq_some_iff_append, missing, named, not_exists, not_and]
  constructor
  · rintro ⟨absent, before, after, split_at, there⟩
    exact ⟨before, after, split_at, there, absent⟩
  · rintro ⟨before, after, split_at, there, absent⟩
    exact ⟨absent, before, after, split_at, there⟩

theorem tablesOf_eq_error_iff : tablesOf selection joins = .error e ↔
    selection.tables = [] ∧ e = .emptyProjection ∨
      (joins = [] ∧ ∃ first second rest, selection.tables = first :: second :: rest ∧
        e = .tableNotInPath second.table) ∨
      joins ≠ [] ∧ ∃ p before after, selection.tables = before ++ p :: after ∧
        (∀ q ∈ before, ∃ l ∈ joins, l.edge.touches q.table) ∧
        (∀ l ∈ joins, ¬ l.edge.touches p.table) ∧ e = .tableNotInPath p.table := by
  unfold tablesOf
  rcases selected : selection.tables with _ | ⟨first, rest⟩
  · constructor
    · intro failed
      exact .inl ⟨rfl, (Except.error.inj failed).symm⟩
    · rintro (⟨-, rfl⟩ | ⟨-, _, _, _, nothing, -⟩ | ⟨-, p, before, after, nothing, -⟩)
      · rfl
      · cases nothing
      · simp at nothing
  · cases joins with
    | nil =>
      rcases rest with _ | ⟨second, rest⟩
      · simp
      · constructor
        · intro failed
          exact .inr (.inl ⟨rfl, first, second, rest, rfl, (Except.error.inj failed).symm⟩)
        · rintro (⟨nothing, -⟩ | ⟨-, first', second', rest', two, rfl⟩ | ⟨some_join, -⟩)
          · cases nothing
          · cases two
            rfl
          · exact absurd rfl some_join
    | cons l ls =>
      simp only [reduceCtorEq, false_and, false_or, ne_eq, not_false_eq_true, true_and]
      cases found : (first :: rest).find? fun p => !(joinedTables (l :: ls)).contains p.table with
      | some p =>
        obtain ⟨before, after, split_at, there, absent⟩ := find?_missing_eq_some_iff.1 found
        constructor
        · intro failed
          exact ⟨p, before, after, split_at, there, absent, (Except.error.inj failed).symm⟩
        · rintro ⟨q, before, after, split_at, there, absent, rfl⟩
          rw [find?_missing_eq_some_iff.2 ⟨before, after, split_at, there, absent⟩] at found
          rw [Option.some.inj found]
      | none =>
        simp only [reduceCtorEq, false_iff]
        rintro ⟨p, before, after, split_at, there, absent, -⟩
        rw [find?_missing_eq_some_iff.2 ⟨before, after, split_at, there, absent⟩] at found
        cases found

/-! ## Items -/

theorem ofTable_eq_ok_iff {table : String} {s : TableQuery} :
    TableQuery.ofTable d selection joins table = .ok s ↔
      Agreeing d (selection.asked joins table) ∧ s = ⟨table, firstNamed d (selection.asked joins table)⟩ :=
  TableQuery.addAll_eq_ok_iff

theorem ofTable_eq_error_iff {table : String} : TableQuery.ofTable d selection joins table = .error e ↔
    ∃ front item back, selection.asked joins table = front ++ item :: back ∧ Agreeing d front ∧
      (∃ i ∈ front, ¬ i.Agrees d item) ∧ e = .aliasConflict table item.aliasName :=
  TableQuery.addAll_eq_error_iff

theorem exists_ofTable_iff {table : String} :
    (∃ s, TableQuery.ofTable d selection joins table = .ok s) ↔ Agreeing d (selection.asked joins table) := by
  simp only [ofTable_eq_ok_iff, exists_and_left, exists_eq, and_true]

theorem exists_inner_iff {tables : List String} :
    (∃ selects, tables.mapM (TableQuery.ofTable d selection joins) = .ok selects) ↔
      ∀ t ∈ tables, Agreeing d (selection.asked joins t) := by
  constructor
  · rintro ⟨selects, made⟩ t mem
    obtain ⟨s, -, inner⟩ := exists_of_mem_of_mapM made mem
    exact exists_ofTable_iff.1 ⟨s, inner⟩
  · intro agreeing
    exact exists_mapM_eq_ok fun t mem => exists_ofTable_iff.2 (agreeing t mem)

/-! ## Joins in turn -/

/-- The tables that are there are those of some joins. -/
def Holds (seen : List String) (joins : List Link) : Prop :=
  ∀ t, t ∈ seen ↔ ∃ l ∈ joins, l.edge.touches t

section Run

variable {selects : List TableQuery} {joined joined' : Joined} {seen : List String}
  {before ls : List Link} {l : Link}

theorem holds_pair (l : Link) : Holds [l.leftTable, l.rightTable] [l] := by
  intro t
  simp only [List.mem_pair, List.mem_singleton, exists_eq_left, JoinEdge.touches_iff]
  exact or_congr eq_comm eq_comm

/-- A join names a table that is there if it shares one with an earlier join. -/
theorem Holds.touches_iff (holds : Holds seen before) :
    l.leftTable ∈ seen ∨ l.rightTable ∈ seen ↔ ∃ m ∈ before, JoinPath.Meets m.edge l.edge := by
  rw [holds, holds]
  constructor
  · rintro (⟨m, hm, touches⟩ | ⟨m, hm, touches⟩)
    · exact ⟨m, hm, l.leftTable, touches, JoinEdge.touches_iff.2 (.inl rfl)⟩
    · exact ⟨m, hm, l.rightTable, touches, JoinEdge.touches_iff.2 (.inr rfl)⟩
  · rintro ⟨m, hm, t, touches, own⟩
    rcases JoinEdge.touches_iff.1 own with rfl | rfl
    · exact .inl ⟨m, hm, touches⟩
    · exact .inr ⟨m, hm, touches⟩

/-- A join that is added leaves both of its tables there. -/
theorem Holds.next (holds : Holds seen before) (touches : l.leftTable ∈ seen ∨ l.rightTable ∈ seen) :
    Holds (seen ++ (entering seen [l]).map (·.2)) (before ++ [l]) := by
  intro t
  have entered : t ∈ seen ++ (entering seen [l]).map (·.2) ↔
      t ∈ seen ∨ t ∈ [l.leftTable, l.rightTable] := by
    by_cases left : l.leftTable ∈ seen <;> by_cases right : l.rightTable ∈ seen <;>
      simp [entering, left, right] <;> grind
  rw [entered, holds, holds_pair l]
  simp only [List.mem_append, or_and_right, exists_or]

theorem Holds.growing (holds : Holds seen before) (growing : Growing seen ls) :
    Holds (seen ++ (entering seen ls).map (·.2)) (before ++ ls) := by
  induction ls generalizing seen before with
  | nil => simpa [entering] using holds
  | cons l ls ih =>
    rw [entering_cons, List.map_append, ← List.append_assoc, List.append_cons]
    exact ih (holds.next growing.1) growing.2

/-- Each join finds a table when its turn comes if it shares one with an earlier join. -/
theorem Holds.growing_iff (holds : Holds seen before)
    (attached : JoinPath.Attached (before.map (·.edge))) (ne : before ≠ []) :
    Growing seen ls ↔ JoinPath.Attached ((before ++ ls).map (·.edge)) := by
  induction ls generalizing seen before with
  | nil =>
    rw [List.append_nil]
    exact ⟨fun _ => attached, fun _ => trivial⟩
  | cons l ls ih =>
    rw [Growing, holds.touches_iff, List.append_cons]
    by_cases meets : ∃ m ∈ before, JoinPath.Meets m.edge l.edge
    · have longer : JoinPath.Attached ((before ++ [l]).map (·.edge)) := by
        obtain ⟨m, hm, meets⟩ := meets
        rw [List.map_append]
        exact JoinPath.attached_concat attached fun _ => ⟨m.edge, List.mem_map_of_mem hm, meets⟩
      rw [← ih (holds.next (holds.touches_iff.2 meets)) longer (by simp)]
      exact ⟨fun h => h.2, fun growing => ⟨meets, growing⟩⟩
    · -- Joins that come later cannot make up for one that meets no earlier join.
      refine ⟨fun h => absurd h.1 meets, fun all => absurd ?_ meets⟩
      obtain ⟨f, hf, shared⟩ := all (before.map (·.edge)) l.edge (ls.map (·.edge)) (by simp)
        (by simpa using ne)
      obtain ⟨m, hm, rfl⟩ := List.mem_map.1 hf
      exact ⟨m, hm, shared⟩

/-- A join that shares no table with earlier ones cannot be added. -/
theorem nextJoin_eq_error_iff (paired : l.Paired) (holds : Holds joined.tables before) :
    nextJoin schema selects joined l = .error e ↔
      (∀ m ∈ before, ¬ JoinPath.Meets m.edge l.edge) ∧
        e = .disconnectedEdge l.leftTable l.rightTable := by
  have ok := checkJoin_eq_ok_iff_paired.2 paired
  by_cases touches : l.leftTable ∈ joined.tables ∨ l.rightTable ∈ joined.tables
  · have added : nextJoin schema selects joined l = .ok (joined.after schema selects [l]) :=
      (nextJoin_eq_ok_iff ok).2 ⟨touches, rfl⟩
    obtain ⟨m, hm, meets⟩ := holds.touches_iff.1 touches
    rw [added]
    simp only [reduceCtorEq, false_iff, not_and]
    exact fun apart => absurd meets (apart m hm)
  · have apart : ∀ m ∈ before, ¬ JoinPath.Meets m.edge l.edge := by
      intro m hm meets
      exact touches (holds.touches_iff.2 ⟨m, hm, meets⟩)
    rw [not_or] at touches
    have refused : nextJoin schema selects joined l =
        .error (.disconnectedEdge l.leftTable l.rightTable) := by
      rw [nextJoin, joinCondition_eq_ok ok]
      simp [touches.1, touches.2, bind, Except.bind]
    rw [refused, Except.error.injEq, eq_comm]
    exact ⟨fun eq => ⟨apart, eq⟩, fun h => h.2⟩

/-- Joins after the first one are added to a chain that holds its two tables. -/
theorem exists_start (schema : Option String) (selects : List TableQuery) (own : l.Paired)
    (ls : List Link) : ∃ start : Joined, start.tables = [l.leftTable, l.rightTable] ∧
      Assembly.source schema selects (l :: ls) =
        (ls.foldlM (nextJoin schema selects) start).map fun joined => .nested joined.chain := by
  rw [Assembly.source, firstJoin, joinCondition_eq_ok (checkJoin_eq_ok_iff_paired.2 own)]
  exact ⟨_, rfl, rfl⟩

/-- Joins are added in turn to the first one if each of them shares a table with an earlier one. -/
theorem exists_run_iff (start : joined.tables = [l.leftTable, l.rightTable])
    (paired : ∀ m ∈ ls, m.Paired) :
    (∃ joined', ls.foldlM (nextJoin schema selects) joined = .ok joined') ↔
      JoinPath.Attached ((l :: ls).map (·.edge)) := by
  have ok : ∀ m ∈ ls, checkJoin m = .ok () := fun m hm => checkJoin_eq_ok_iff_paired.2 (paired m hm)
  simp only [foldlM_nextJoin_eq_ok_iff ok, exists_and_left, exists_eq, and_true, start]
  exact (holds_pair l).growing_iff (JoinPath.attached_singleton l.edge) (by simp)

theorem exists_source_iff (paired : ∀ m ∈ l :: ls, m.Paired) :
    (∃ s, Assembly.source schema selects (l :: ls) = .ok s) ↔
      JoinPath.Attached ((l :: ls).map (·.edge)) := by
  obtain ⟨own, others⟩ := List.forall_mem_cons.1 paired
  obtain ⟨start, tables, source_eq⟩ := exists_start schema selects own ls
  rw [source_eq, ← exists_run_iff tables others]
  constructor
  · rintro ⟨s, made⟩
    obtain ⟨joined', run, -⟩ := map_eq_ok_iff.1 made
    exact ⟨joined', run⟩
  · rintro ⟨joined', run⟩
    exact ⟨_, map_eq_ok_iff.2 ⟨joined', run, rfl⟩⟩

/-- The join behind others that were added in turn fails if it shares no table with them. -/
theorem nextJoin_behind_eq_error_iff (start : joined.tables = [l.leftTable, l.rightTable])
    (paired : ∀ m ∈ ls, m.Paired) {m : Link} (own : m.Paired)
    (run : ls.foldlM (nextJoin schema selects) joined = .ok joined') :
    nextJoin schema selects joined' m = .error e ↔
      (∀ k ∈ l :: ls, ¬ JoinPath.Meets k.edge m.edge) ∧
        e = .disconnectedEdge m.leftTable m.rightTable := by
  have ok : ∀ m ∈ ls, checkJoin m = .ok () := fun m hm => checkJoin_eq_ok_iff_paired.2 (paired m hm)
  obtain ⟨growing, rfl⟩ := (foldlM_nextJoin_eq_ok_iff ok).1 run
  have holds : Holds joined.tables [l] := start ▸ holds_pair l
  exact nextJoin_eq_error_iff own (holds.growing growing)

/-- The first join that shares no table with an earlier one is refused. -/
theorem source_eq_error_iff (paired : ∀ m ∈ l :: ls, m.Paired) :
    Assembly.source schema selects (l :: ls) = .error e ↔
      ∃ before m after, l :: ls = before ++ m :: after ∧ before ≠ [] ∧
        JoinPath.Attached (before.map (·.edge)) ∧ (∀ k ∈ before, ¬ JoinPath.Meets k.edge m.edge) ∧
        e = .disconnectedEdge m.leftTable m.rightTable := by
  obtain ⟨own, others⟩ := List.forall_mem_cons.1 paired
  obtain ⟨start, tables, source_eq⟩ := exists_start schema selects own ls
  rw [source_eq, map_eq_error_iff, foldlM_eq_error_iff]
  constructor
  · rintro ⟨front, m, after, joined', rfl, run, refused⟩
    obtain ⟨front_paired, rest⟩ := List.forall_mem_append.1 others
    obtain ⟨apart, rfl⟩ :=
      (nextJoin_behind_eq_error_iff tables front_paired (rest m (by simp)) run).1 refused
    exact ⟨l :: front, m, after, rfl, by simp, (exists_run_iff tables front_paired).1 ⟨joined', run⟩,
      apart, rfl⟩
  · rintro ⟨before, m, after, split_at, ne, attached, apart, rfl⟩
    obtain ⟨k, front, rfl⟩ := List.exists_cons_of_ne_nil ne
    obtain ⟨rfl, rfl⟩ := List.cons.inj split_at
    obtain ⟨front_paired, rest⟩ := List.forall_mem_append.1 others
    obtain ⟨joined', run⟩ := (exists_run_iff tables front_paired).2 attached
    exact ⟨front, m, after, joined', rfl, run,
      (nextJoin_behind_eq_error_iff tables front_paired (rest m (by simp)) run).2 ⟨apart, rfl⟩⟩

end Run

/-! ## All checks -/

theorem forM_checkJoin_iff : joins.forM checkJoin = .ok () ↔ ∀ l ∈ joins, l.Paired := by
  simp only [forM_eq_ok_iff, checkJoin_eq_ok_iff_paired]

theorem exists_source_of_inner (schema : Option String) {tables : List String} {selects : List TableQuery}
    (tables_ok : tablesOf selection joins = .ok tables)
    (made : tables.mapM (TableQuery.ofTable d selection joins) = .ok selects) (no_join : joins = []) :
    ∃ s, Assembly.source schema selects joins = .ok s := by
  subst no_join
  obtain ⟨-, ⟨-, only, -, rfl⟩ | ⟨some_join, -⟩⟩ := tablesOf_eq_ok_iff.1 tables_ok
  · obtain ⟨s, rest, -, -, rfl⟩ := List.forall₂_cons_left_iff.1 (mapM_eq_ok_iff.1 made)
    exact ⟨_, rfl⟩
  · exact absurd rfl some_join

/-- The stages of a failed attempt. -/
theorem assemble_eq_error_iff : assemble d schema selection joins filter = .error e ↔
    selection.outputs = [] ∧
        e = (if selection.tables = [] then .emptyProjection else .noOutputColumns) ∨
      selection.outputs ≠ [] ∧ (joins.forM checkJoin = .error e ∨
        (∀ l ∈ joins, l.Paired) ∧ (tablesOf selection joins = .error e ∨
          ∃ tables, tablesOf selection joins = .ok tables ∧
            (tables.mapM (TableQuery.ofTable d selection joins) = .error e ∨
              ∃ selects, tables.mapM (TableQuery.ofTable d selection joins) = .ok selects ∧
                Assembly.source schema selects joins = .error e))) := by
  have all_paired : (∃ u, joins.forM checkJoin = .ok u) ↔ ∀ l ∈ joins, l.Paired := by
    rw [← forM_checkJoin_iff]
    exact ⟨fun ⟨_, checked⟩ => checked, fun checked => ⟨(), checked⟩⟩
  unfold assemble
  by_cases empty : selection.outputs = []
  · have refused : ∀ rest : Unit → Except AssemblyError Assembled,
        ((throw (if selection.tables = [] then .emptyProjection else .noOutputColumns) >>= rest) =
          .error e) ↔ e = if selection.tables = [] then .emptyProjection else .noOutputColumns := by
      intro rest
      exact ⟨fun h => (Except.error.inj h).symm, fun h => congrArg Except.error h.symm⟩
    simp only [List.isEmpty_iff, empty, if_true, refused, true_and, ne_eq, not_true_eq_false, false_and,
      or_false]
  · simp only [List.isEmpty_iff, empty, if_false, bind_eq_error_iff, exists_and_right, all_paired, false_and,
      false_or, ne_eq, not_false_eq_true, true_and, pure, Except.pure, reduceCtorEq, and_false, exists_false,
      or_false]

theorem assembles_iff :
    (∃ a, assemble d schema selection joins filter = .ok a) ↔ Assemblable d selection joins := by
  simp only [assemble_eq_ok_iff, checkJoin_eq_ok_iff_paired]
  constructor
  · rintro ⟨a, outputs, paired, tables, selects, source, tables_ok, made, source_ok, rfl⟩
    obtain ⟨reached, rfl⟩ := tablesOf_eq_ok_iff_reached.1 tables_ok
    refine ⟨outputs, paired, reached, ?_, exists_inner_iff.1 ⟨selects, made⟩⟩
    cases joins with
    | nil => exact JoinPath.attached_nil
    | cons l ls => exact (exists_source_iff paired).1 ⟨source, source_ok⟩
  · intro fit
    have tables_ok := tablesOf_eq_ok_iff_reached.2 ⟨fit.reached, rfl⟩
    obtain ⟨selects, made⟩ := exists_inner_iff.2 fit.agreeing
    have source_ok : ∃ source, Assembly.source schema selects joins = .ok source := by
      cases joins with
      | nil => exact exists_source_of_inner schema tables_ok made rfl
      | cons l ls => exact (exists_source_iff fit.paired).2 fit.attached
    obtain ⟨source, source_ok⟩ := source_ok
    exact ⟨_, fit.outputs, fit.paired, _, selects, source, tables_ok, made, source_ok, rfl⟩

theorem fault_of_assemble (h : assemble d schema selection joins filter = .error e) :
    FirstFault d selection joins e := by
  rcases assemble_eq_error_iff.1 h with ⟨outputs, rfl⟩ | ⟨outputs, h⟩
  · split_ifs with tables
    · exact .nothing outputs tables
    · exact .noOutputs outputs tables
  rcases h with h | ⟨paired, h⟩
  · obtain ⟨before, l, after, at_join, checked, refused⟩ := forM_eq_error_iff.1 h
    have paired : ∀ m ∈ before, m.Paired := fun m hm => checkJoin_eq_ok_iff_paired.1 (checked m hm)
    rcases checkJoin_eq_error_iff.1 refused with ⟨counts, rfl⟩ | ⟨left, right, rfl⟩
    · exact .columnCounts outputs at_join paired counts
    · exact .emptyCondition outputs at_join paired left right
  rcases h with h | ⟨tables, tables_ok, h⟩
  · rcases tablesOf_eq_error_iff.1 h with ⟨tables, rfl⟩ | ⟨no_join, first, second, rest, tables, rfl⟩ |
      ⟨some_join, p, before, after, tables, there, absent, rfl⟩
    · exact .noTable outputs paired tables
    · exact .secondTable outputs no_join tables
    · exact .missing outputs paired some_join tables there absent
  obtain ⟨reached, rfl⟩ := tablesOf_eq_ok_iff_reached.1 tables_ok
  rcases h with h | ⟨selects, made, h⟩
  · obtain ⟨before, t, after, tables, succeed, failed⟩ := mapM_eq_error_iff.1 h
    obtain ⟨front, item, back, items, first, refused, rfl⟩ := ofTable_eq_error_iff.1 failed
    exact .conflict outputs paired reached tables (fun u hu => exists_ofTable_iff.1 (succeed u hu)) items
      first refused
  · cases joins with
    | nil =>
      obtain ⟨source, source_ok⟩ := exists_source_of_inner schema tables_ok made rfl
      rw [source_ok] at h
      cases h
    | cons l ls =>
      obtain ⟨before, m, after, at_join, behind, attached, apart, rfl⟩ := (source_eq_error_iff paired).1 h
      exact .disconnected outputs paired reached (exists_inner_iff.1 ⟨selects, made⟩) at_join behind attached
        apart

theorem assemble_of_fault (fault : FirstFault d selection joins e) :
    assemble d schema selection joins filter = .error e := by
  rw [assemble_eq_error_iff]
  cases fault with
  | nothing outputs tables => exact .inl ⟨outputs, by rw [if_pos tables]⟩
  | noOutputs outputs tables => exact .inl ⟨outputs, by rw [if_neg tables]⟩
  | columnCounts outputs at_join paired counts =>
    exact .inr ⟨outputs, .inl (forM_eq_error_iff.2 ⟨_, _, _, at_join,
      fun m hm => checkJoin_eq_ok_iff_paired.2 (paired m hm),
      checkJoin_eq_error_iff.2 (.inl ⟨counts, rfl⟩)⟩)⟩
  | emptyCondition outputs at_join paired left right =>
    exact .inr ⟨outputs, .inl (forM_eq_error_iff.2 ⟨_, _, _, at_join,
      fun m hm => checkJoin_eq_ok_iff_paired.2 (paired m hm),
      checkJoin_eq_error_iff.2 (.inr ⟨left, right, rfl⟩)⟩)⟩
  | noTable outputs paired tables =>
    exact .inr ⟨outputs, .inr ⟨paired, .inl (tablesOf_eq_error_iff.2 (.inl ⟨tables, rfl⟩))⟩⟩
  | secondTable outputs no_join tables =>
    subst no_join
    exact .inr ⟨outputs, .inr ⟨nofun, .inl (tablesOf_eq_error_iff.2
      (.inr (.inl ⟨rfl, _, _, _, tables, rfl⟩)))⟩⟩
  | missing outputs paired some_join tables there absent =>
    exact .inr ⟨outputs, .inr ⟨paired, .inl (tablesOf_eq_error_iff.2
      (.inr (.inr ⟨some_join, _, _, _, tables, there, absent, rfl⟩)))⟩⟩
  | conflict outputs paired reached tables agreeing items first refused =>
    have failed := ofTable_eq_error_iff.2 ⟨_, _, _, items, first, refused, rfl⟩
    exact .inr ⟨outputs, .inr ⟨paired, .inr ⟨_, tablesOf_eq_ok_iff_reached.2 ⟨reached, rfl⟩,
      .inl (mapM_eq_error_iff.2 ⟨_, _, _, tables, fun u hu => exists_ofTable_iff.2 (agreeing u hu),
        failed⟩)⟩⟩⟩
  | disconnected outputs paired reached agreeing at_join behind attached apart =>
    obtain ⟨selects, made⟩ := exists_inner_iff.2 agreeing
    refine .inr ⟨outputs, .inr ⟨paired, .inr ⟨_, tablesOf_eq_ok_iff_reached.2 ⟨reached, rfl⟩,
      .inr ⟨selects, made, ?_⟩⟩⟩⟩
    cases joins with
    | nil => simp at at_join
    | cons l ls => exact (source_eq_error_iff paired).2 ⟨_, _, _, at_join, behind, attached, apart, rfl⟩

/-- A statement is put together if its parts meet all conditions, and otherwise the first check that
fails gives the error. -/
theorem assembles_or_first_fault :
    ((∃ a, assemble d schema selection joins filter = .ok a) ↔ Assemblable d selection joins) ∧
      ∀ e, assemble d schema selection joins filter = .error e ↔ FirstFault d selection joins e :=
  ⟨assembles_iff, fun _ => ⟨fault_of_assemble, assemble_of_fault⟩⟩

/-- Joins that fit each other and reach every selected table leave three ways to fail. -/
theorem assemble_error_cases (paired : ∀ l ∈ joins, l.Paired)
    (attached : JoinPath.Attached (joins.map (·.edge)))
    (single : joins = [] → selection.tables.length ≤ 1)
    (covered : joins ≠ [] → ∀ p ∈ selection.tables, p.table ∈ joinedTables joins)
    (h : assemble d schema selection joins filter = .error e) :
    e = .emptyProjection ∧ selection.tables = [] ∨
      e = .noOutputColumns ∧ selection.outputs = [] ∧ selection.tables ≠ [] ∨
      ∃ table aliasName, e = .aliasConflict table aliasName := by
  cases fault_of_assemble h with
  | nothing _ tables => exact .inl ⟨rfl, tables⟩
  | noOutputs outputs tables => exact .inr (.inl ⟨rfl, outputs, tables⟩)
  | columnCounts _ at_join _ counts =>
    exact absurd (paired _ (by rw [at_join]; simp)).1 counts
  | emptyCondition _ at_join _ left =>
    exact absurd left (paired _ (by rw [at_join]; simp)).2
  | noTable _ _ tables => exact .inl ⟨rfl, tables⟩
  | secondTable _ no_join tables =>
    have one := single no_join
    rw [tables, List.length_cons, List.length_cons] at one
    omega
  | @missing _ _ p _ _ some_join tables _ absent =>
    have selected : p ∈ selection.tables := by simp [tables]
    obtain ⟨l, hl, touches⟩ := mem_joinedTables_iff.1 (covered some_join p selected)
    exact absurd touches (absent l hl)
  | conflict => exact .inr (.inr ⟨_, _, rfl⟩)
  | disconnected _ _ _ _ at_join behind _ apart =>
    obtain ⟨f, hf, meets⟩ := attached _ _ _ (by rw [at_join, List.map_append, List.map_cons])
      (by simpa using behind)
    obtain ⟨m, hm, rfl⟩ := List.mem_map.1 hf
    exact absurd meets (apart m hm)

end Joinery
