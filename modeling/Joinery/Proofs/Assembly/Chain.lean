import Joinery.Assembly.Basic
import Joinery.Proofs.Graph.Plan

/-!
# Chains of joins

Joins of different tables make a chain if each of them shares a table with an earlier one
(`source_eq_ok_iff`). `entering` says which of them bring in a table, and which one: those are the
joins of the chain, in order, and all others add nothing. The tables that come in are the tables of
the joins in first-seen order (`joinedTables_eq`).
-/

namespace Joinery

open Sql

/-! ## Conditions -/

/-- The equations that a join asks for. -/
def Link.equations (l : Link) : List Expr :=
  l.predicates.map fun p => .eq (.ofTable l.leftTable p.1) (.ofTable l.rightTable p.2)

/-- The equations of a join as one condition. -/
def Link.joinExpr (l : Link) : Expr :=
  (Expr.conjAll l.equations).getD (.and [])

theorem Link.equations_ne_nil {l : Link} (ne : l.leftColumns ≠ [])
    (length : l.leftColumns.length = l.rightColumns.length) : l.equations ≠ [] := by
  intro none_left
  rw [equations, List.map_eq_nil_iff, predicates, List.zip_eq_nil_iff] at none_left
  rcases none_left with h | h
  · exact ne h
  · exact ne (List.length_eq_zero_iff.1 (by rw [length, h]; rfl))

namespace Assembly

theorem checkJoin_eq_ok_iff {l : Link} :
    checkJoin l = .ok () ↔ l.leftColumns ≠ [] ∧ l.leftColumns.length = l.rightColumns.length := by
  unfold checkJoin
  split_ifs with counts empty
  · simp [counts]
  · simp only [false_iff, not_and]
    exact fun ne => absurd (List.isEmpty_iff.1 empty) ne
  · simp only [true_iff]
    exact ⟨fun e => empty (List.isEmpty_iff.2 e), not_not.1 counts⟩

theorem joinCondition_eq_ok {l : Link} (ok : checkJoin l = .ok ()) :
    joinCondition l = .ok l.joinExpr := by
  obtain ⟨ne, length⟩ := checkJoin_eq_ok_iff.1 ok
  have found : Expr.conjAll l.equations = some l.joinExpr := by
    rw [Link.joinExpr]
    cases equations : l.equations with
    | nil => exact absurd equations (Link.equations_ne_nil ne length)
    | cons e es => rfl
  unfold joinCondition
  split
  next condition h => rw [Option.some.inj (h.symm.trans found)]
  next h => cases h.symm.trans found

/-! ## Joins that bring in a table -/

/-- The joins that bring in a table when some are there already, each with that table. -/
def entering : (seen : List String) → List Link → List (Link × String)
  | _, [] => []
  | seen, l :: ls =>
    if l.leftTable ∈ seen then
      if l.rightTable ∈ seen then entering seen ls
      else (l, l.rightTable) :: entering (seen ++ [l.rightTable]) ls
    else (l, l.leftTable) :: entering (seen ++ [l.leftTable]) ls

/-- The chain that starts with a source and joins others to it. -/
def chainFrom (source : String → Source) (chain : JoinChain) (es : List (Link × String)) :
    JoinChain :=
  es.foldl (fun chain e => .join chain (source e.2) e.1.joinExpr) chain

variable {schema : Option String} {selects : List TableQuery} {joins : List Link}

theorem entering_cons (seen : List String) (l : Link) (ls : List Link) :
    entering seen (l :: ls) =
      entering seen [l] ++ entering (seen ++ (entering seen [l]).map (·.2)) ls := by
  by_cases left : l.leftTable ∈ seen <;> by_cases right : l.rightTable ∈ seen <;>
    simp [entering, left, right]

theorem chainFrom_append (source : String → Source) (chain : JoinChain)
    (es fs : List (Link × String)) :
    chainFrom source chain (es ++ fs) = chainFrom source (chainFrom source chain es) fs :=
  List.foldl_append

theorem nodup_append_entering {seen : List String} (nodup : seen.Nodup) (l : Link) :
    (seen ++ (entering seen [l]).map (·.2)).Nodup := by
  by_cases left : l.leftTable ∈ seen <;> by_cases right : l.rightTable ∈ seen <;>
    simp [entering, left, right, List.nodup_append, nodup] <;> grind

/-- What some joins make of a chain. -/
def Joined.after (schema : Option String) (selects : List TableQuery) (joined : Joined)
    (ls : List Link) : Joined where
  tables := joined.tables ++ (entering joined.tables ls).map (·.2)
  chain := chainFrom (fun t => (innerOf selects t).source schema) joined.chain
    (entering joined.tables ls)

theorem Joined.after_cons (joined : Joined) (l : Link) (ls : List Link) :
    joined.after schema selects (l :: ls) =
      (joined.after schema selects [l]).after schema selects ls := by
  rw [after, after, after, entering_cons joined.tables l ls, chainFrom_append, List.map_append,
    List.append_assoc]

/-- A join is added if it touches a table that is there. -/
theorem nextJoin_eq_ok_iff {joined joined' : Joined} {l : Link} (ok : checkJoin l = .ok ()) :
    nextJoin schema selects joined l = .ok joined' ↔
      (l.leftTable ∈ joined.tables ∨ l.rightTable ∈ joined.tables) ∧
        joined' = joined.after schema selects [l] := by
  rw [nextJoin, joinCondition_eq_ok ok]
  by_cases left : l.leftTable ∈ joined.tables <;> by_cases right : l.rightTable ∈ joined.tables
  · simp [Joined.after, entering, chainFrom, left, right, bind, Except.bind]
    exact eq_comm
  · simp [Joined.after, entering, chainFrom, left, right, bind, Except.bind, eq_comm]
  · simp [Joined.after, entering, chainFrom, left, right, bind, Except.bind, eq_comm]
  · simp [left, right, bind, Except.bind]

/-- Every join touches a table that is there when its turn comes. -/
def Growing : (seen : List String) → List Link → Prop
  | _, [] => True
  | seen, l :: ls =>
    (l.leftTable ∈ seen ∨ l.rightTable ∈ seen) ∧
      Growing (seen ++ (entering seen [l]).map (·.2)) ls

theorem foldlM_nextJoin_eq_ok_iff {joined joined' : Joined} {ls : List Link}
    (ok : ∀ l ∈ ls, checkJoin l = .ok ()) :
    ls.foldlM (nextJoin schema selects) joined = .ok joined' ↔
      Growing joined.tables ls ∧ joined' = joined.after schema selects ls := by
  induction ls generalizing joined with
  | nil => simp [Growing, Joined.after, entering, chainFrom, pure, Except.pure, eq_comm]
  | cons l ls ih =>
    have first := ok l (by simp)
    have rest : ∀ m ∈ ls, checkJoin m = .ok () := fun m hm => ok m (by simp [hm])
    simp only [List.foldlM_cons, bind_eq_ok_iff, nextJoin_eq_ok_iff first, ih rest,
      Joined.after_cons joined l ls, Growing]
    constructor
    · rintro ⟨_, ⟨touches, rfl⟩, growing, eq⟩
      exact ⟨⟨touches, growing⟩, eq⟩
    · rintro ⟨⟨touches, growing⟩, eq⟩
      exact ⟨_, ⟨touches, rfl⟩, growing, eq⟩

/-- The first join goes on from a chain of its left table alone. -/
theorem firstJoin_eq_nextJoin {l : Link} (ne : l.leftTable ≠ l.rightTable) :
    firstJoin schema selects l = nextJoin schema selects
      ⟨[l.leftTable], .base ((innerOf selects l.leftTable).source schema)⟩ l := by
  simp [firstJoin, nextJoin, ne.symm]
  rfl

/-- Joins make a chain if each of them touches a table that is there when its turn comes. -/
theorem source_eq_ok_iff {l : Link} {ls : List Link} {s : Source}
    (ne : l.leftTable ≠ l.rightTable) (ok : ∀ m ∈ l :: ls, checkJoin m = .ok ()) :
    source schema selects (l :: ls) = .ok s ↔ Growing [l.leftTable] (l :: ls) ∧
      s = .nested (chainFrom (fun t => (innerOf selects t).source schema)
        (.base ((innerOf selects l.leftTable).source schema))
        (entering [l.leftTable] (l :: ls))) := by
  let start : Joined := ⟨[l.leftTable], .base ((innerOf selects l.leftTable).source schema)⟩
  have run (joined : Joined) : (l :: ls).foldlM (nextJoin schema selects) start = .ok joined ↔ _ :=
    foldlM_nextJoin_eq_ok_iff ok
  simp only [List.foldlM_cons, bind_eq_ok_iff] at run
  simp only [source, firstJoin_eq_nextJoin ne, bind_eq_ok_iff]
  constructor
  · rintro ⟨first, first_ok, joined, rest_ok, eq⟩
    obtain ⟨growing, rfl⟩ := (run joined).1 ⟨first, first_ok, rest_ok⟩
    exact ⟨growing, (Except.ok.inj eq).symm⟩
  · rintro ⟨growing, rfl⟩
    obtain ⟨first, first_ok, rest_ok⟩ := (run _).2 ⟨growing, rfl⟩
    exact ⟨first, first_ok, _, rest_ok, rfl⟩

/-! ## Tables of a chain -/

theorem mem_joinedTables_iff {joins : List Link} {table : String} :
    table ∈ joinedTables joins ↔ ∃ l ∈ joins, l.edge.touches table := by
  rw [joinedTables, List.mem_eraseDups, List.mem_flatMap]
  refine exists_congr fun l => and_congr_right fun _ => ?_
  rw [JoinEdge.touches_iff, List.mem_pair, eq_comm, eq_comm (b := l.rightTable)]
  rfl

theorem eraseDups_append_cons_of_mem {seen rest : List String} {table : String}
    (mem : table ∈ seen) : (seen ++ table :: rest).eraseDups = (seen ++ rest).eraseDups := by
  rw [List.append_cons, List.eraseDups_append, eraseDups_concat, if_pos mem, List.eraseDups_append]
  congr 2
  simp only [List.removeAll]
  refine List.filter_congr fun x _ => ?_
  by_cases hx : x = table <;> simp [hx, mem]

theorem eraseDups_append_tables {seen : List String} {ls : List Link} (nodup : seen.Nodup)
    (growing : Growing seen ls) :
    (seen ++ ls.flatMap fun l => [l.leftTable, l.rightTable]).eraseDups =
      seen ++ (entering seen ls).map (·.2) := by
  induction ls generalizing seen with
  | nil => simp [entering, eraseDups_of_nodup nodup]
  | cons l ls ih =>
    have same : (seen ++ (l :: ls).flatMap fun l => [l.leftTable, l.rightTable]).eraseDups =
        (seen ++ (entering seen [l]).map (·.2) ++
          ls.flatMap fun l => [l.leftTable, l.rightTable]).eraseDups := by
      by_cases left : l.leftTable ∈ seen <;> by_cases right : l.rightTable ∈ seen
      · simp [entering, left, right, eraseDups_append_cons_of_mem]
      · simp [entering, left, right, eraseDups_append_cons_of_mem]
      · have right' : l.rightTable ∈ seen ++ [l.leftTable] := List.mem_append_left _ right
        simp only [entering, left, if_false, List.flatMap_cons, List.cons_append, List.nil_append,
          List.map_cons, List.map_nil]
        rw [List.append_cons, eraseDups_append_cons_of_mem right', ← List.append_cons]
      · exact absurd growing.1 (by simp [left, right])
    rw [same, ih (nodup_append_entering nodup l) growing.2, entering_cons seen l ls,
      List.map_append, List.append_assoc]

/-- The tables of joins in first-seen order are those that come into the chain. -/
theorem joinedTables_eq {l : Link} {ls : List Link}
    (growing : Growing [l.leftTable] (l :: ls)) :
    joinedTables (l :: ls) = l.leftTable :: (entering [l.leftTable] (l :: ls)).map (·.2) := by
  have tables := eraseDups_append_tables (List.nodup_singleton l.leftTable) growing
  rw [List.flatMap_cons, ← List.append_assoc, List.singleton_append] at tables
  have again : l.leftTable ∈ [l.leftTable] := by simp
  exact (eraseDups_append_cons_of_mem again).symm.trans tables

end Assembly

end Joinery
