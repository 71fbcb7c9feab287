import Joinery.Link
import Joinery.Proofs.EraseDups
import Joinery.Proofs.Outcome
import Joinery.Proofs.Sql.Meaning

/-!
# Flat queries

A flat query takes one row of each stored table and keeps the combinations that some links and a filter
accept. It is what a statement with inner ones is compared with. A combination decides whatever it has the
tables for, and one more table does not change that.
-/

namespace Joinery.Sql

variable {V : Type}

/-- A column of the result: its name, and the stored column that it shows. -/
structure FlatColumn where
  name : String
  table : String
  column : String
  deriving DecidableEq, Inhabited

/-- A query of stored tables without inner statements. -/
structure FlatQuery where
  schema : Option String
  tables : List String
  joins : List Link
  filter : Option FilterExpr
  columns : List FlatColumn

/-- One row of each table. -/
abbrev Combination (V : Type) := List (String × (String → V))

/-- Every way to take one row of each table. -/
def combinations (db : Database V) (schema : Option String) : List String → List (Combination V)
  | [] => [[]]
  | t :: ts => (db.rows ⟨schema, t⟩).flatMap fun row =>
      (combinations db schema ts).map ((t, row) :: ·)

namespace Combination

/-- The value of a stored column. -/
def read? (d : Dialect) (c : Combination V) (table column : String) : Option V :=
  match c.filter (·.1 = table) with
  | [b] => some (b.2 (d.columnKey column))
  | _ => none

/-- Two columns that a link compares are equal. -/
def agree? (d : Dialect) (db : Database V) (c : Combination V) (l : Link) (p : String × String) :
    Option Bool := do
  return db.equal (← c.read? d l.leftTable p.1) (← c.read? d l.rightTable p.2)

/-- All columns that a link compares are equal. -/
def satisfies? (d : Dialect) (db : Database V) (c : Combination V) (l : Link) : Option Bool :=
  (l.predicates.mapM (c.agree? d db l)).map (·.all id)

/-- What the filter says. -/
def passes? (d : Dialect) (db : Database V) (c : Combination V) : Option FilterExpr → Option Bool
  | none => some true
  | some f => (f.columns.mapM fun k => c.read? d k.table k.column).map (db.accepts f.text)

end Combination

namespace FlatQuery

/-- A combination that all links and the filter accept. -/
def accepts? (q : FlatQuery) (d : Dialect) (db : Database V) (c : Combination V) : Option Bool :=
  both? ((q.joins.mapM (c.satisfies? d db)).map (·.all id)) (c.passes? d db q.filter)

/-- The rows of a flat query: it takes one row of each table, keeps what the links and the filter accept,
and shows its columns. -/
def rows? (q : FlatQuery) (d : Dialect) (db : Database V) : Option (List (Row V)) := do
  let kept ← keep? (q.accepts? d db) (combinations db q.schema q.tables)
  kept.mapM fun c => q.columns.mapM fun k => (c.read? d k.table k.column).map (k.name, ·)

end FlatQuery

/-! ## Tables of combinations -/

variable {d : Dialect} {db : Database V} {schema : Option String} {c : Combination V}

theorem tables_of_mem_combinations {ts : List String} (mem : c ∈ combinations db schema ts) :
    c.map (·.1) = ts := by
  induction ts generalizing c with
  | nil =>
    obtain rfl := List.mem_singleton.1 mem
    rfl
  | cons t ts ih =>
    obtain ⟨row, -, behind⟩ := List.mem_flatMap.1 mem
    obtain ⟨rest, rest_mem, rfl⟩ := List.mem_map.1 behind
    rw [List.map_cons, ih rest_mem]

/-- The last table can be chosen from last. -/
theorem combinations_concat (db : Database V) (schema : Option String) (ts : List String) (t : String) :
    combinations db schema (ts ++ [t]) = (combinations db schema ts).flatMap fun c =>
      (db.rows ⟨schema, t⟩).map fun row => c ++ [(t, row)] := by
  induction ts with
  | nil => simp [combinations, List.map_eq_flatMap]
  | cons s ts ih =>
    simp only [List.cons_append, combinations, ih, List.map_flatMap, List.flatMap_assoc,
      List.flatMap_map, List.map_map]
    rfl

namespace Combination

/-- A combination that takes one row of a table has a value for each of its columns. -/
theorem exists_row (nodup : (c.map (·.1)).Nodup) {t : String} (mem : t ∈ c.map (·.1)) :
    ∃ row, (t, row) ∈ c ∧ ∀ k, c.read? d t k = some (row (d.columnKey k)) := by
  obtain ⟨⟨t, row⟩, taken, rfl⟩ := List.mem_map.1 mem
  refine ⟨row, taken, fun k => ?_⟩
  have found := filter_eq_singleton_of_nodup nodup taken
  rw [read?, found]

theorem isSome_read? (nodup : (c.map (·.1)).Nodup) {t : String} (mem : t ∈ c.map (·.1)) (k : String) :
    (c.read? d t k).isSome := by
  obtain ⟨row, -, read⟩ := exists_row (d := d) nodup mem
  rw [read]
  rfl

/-- A further table does not change what columns of others stand for. -/
theorem read?_concat {x : String × (String → V)} {t : String} (ne : x.1 ≠ t) (k : String) :
    read? d (c ++ [x]) t k = c.read? d t k := by
  simp [read?, List.filter_append, ne]

theorem isSome_satisfies? (nodup : (c.map (·.1)).Nodup) {l : Link} (left : l.leftTable ∈ c.map (·.1))
    (right : l.rightTable ∈ c.map (·.1)) : (c.satisfies? d db l).isSome := by
  rw [satisfies?, Option.isSome_map]
  apply isSome_mapM
  intro p _
  obtain ⟨a, ha⟩ := Option.isSome_iff_exists.1 (isSome_read? (d := d) nodup left p.1)
  obtain ⟨b, hb⟩ := Option.isSome_iff_exists.1 (isSome_read? (d := d) nodup right p.2)
  rw [agree?, ha, hb]
  rfl

theorem satisfies?_concat {x : String × (String → V)} {l : Link} (left : x.1 ≠ l.leftTable)
    (right : x.1 ≠ l.rightTable) : satisfies? d db (c ++ [x]) l = c.satisfies? d db l := by
  have same : ∀ p ∈ l.predicates, agree? d db (c ++ [x]) l p = c.agree? d db l p := by
    intro p _
    rw [agree?, agree?, read?_concat left, read?_concat right]
  rw [satisfies?, satisfies?, mapM_congr same]

theorem isSome_passes? (nodup : (c.map (·.1)).Nodup) {filter : Option FilterExpr}
    (there : ∀ f, filter = some f → ∀ k ∈ f.columns, k.table ∈ c.map (·.1)) :
    (c.passes? d db filter).isSome := by
  cases filter with
  | none => rfl
  | some f =>
    rw [passes?, Option.isSome_map]
    apply isSome_mapM
    intro k mem
    exact isSome_read? nodup (there f rfl k mem) k.column

end Combination

/-- A flat query accepts what its links and its filter do. -/
theorem FlatQuery.accepts?_eq_some_iff {q : FlatQuery} :
    q.accepts? d db c = some true ↔
      (∀ l ∈ q.joins, c.satisfies? d db l = some true) ∧ c.passes? d db q.filter = some true := by
  rw [accepts?, both?_eq_some_true_iff, Option.map_eq_some_iff, mapM_all_iff]

theorem FlatQuery.isSome_accepts? {q : FlatQuery} (nodup : (c.map (·.1)).Nodup)
    (joins : ∀ l ∈ q.joins, l.leftTable ∈ c.map (·.1) ∧ l.rightTable ∈ c.map (·.1))
    (filter : (c.passes? d db q.filter).isSome) : (q.accepts? d db c).isSome := by
  have satisfied : (q.joins.mapM (c.satisfies? d db)).isSome := isSome_mapM fun l mem =>
    Combination.isSome_satisfies? nodup (joins l mem).1 (joins l mem).2
  obtain ⟨bs, eq⟩ := Option.isSome_iff_exists.1 satisfied
  obtain ⟨b, passes⟩ := Option.isSome_iff_exists.1 filter
  rw [accepts?, eq, passes]
  rfl

/-- The combinations that a flat query keeps. -/
def FlatQuery.kept (q : FlatQuery) (d : Dialect) (db : Database V) : List (Combination V) :=
  (combinations db q.schema q.tables).filter fun c => q.accepts? d db c = some true

/-- A flat query that has the tables it speaks about shows what it keeps. -/
theorem FlatQuery.rows?_eq_mapM {q : FlatQuery} (nodup : q.tables.Nodup)
    (joins : ∀ l ∈ q.joins, l.leftTable ∈ q.tables ∧ l.rightTable ∈ q.tables)
    (filter : ∀ f, q.filter = some f → ∀ k ∈ f.columns, k.table ∈ q.tables) :
    q.rows? d db = (q.kept d db).mapM fun c =>
      q.columns.mapM fun k => (c.read? d k.table k.column).map (k.name, ·) := by
  have decided : ∀ c ∈ combinations db q.schema q.tables, (q.accepts? d db c).isSome := by
    intro c mem
    have tables := tables_of_mem_combinations mem
    rw [← tables] at nodup joins filter
    exact isSome_accepts? nodup joins (Combination.isSome_passes? nodup filter)
  rw [rows?, keep?_eq_some decided]
  rfl

end Joinery.Sql
