import Joinery.Proofs.Assembly.Chain

/-!
# When a statement is put together

`assemble_eq_ok_iff` lists the stages of `assemble` and what comes of them, `tablesOf_eq_ok_iff` says which
tables rows are taken from.
-/

namespace Joinery

open Sql Assembly

variable {d : Dialect} {schema : Option String} {selection : Selection} {joins : List Link}
  {filter : Option String}

/-- The statement that selects the columns of the result from a source. -/
def outerQuery (selection : Selection) (source : Source) (filter : Option String) : Query :=
  .mk (selection.outputs.map fun c => ⟨.ofTable c.table c.aliasName, none⟩) (some source)
    (filter.map .verbatim) []

theorem assemble_eq_ok_iff {a : Assembled} :
    assemble d schema selection joins filter = .ok a ↔
      selection.outputs ≠ [] ∧ (∀ l ∈ joins, checkJoin l = .ok ()) ∧ ∃ tables selects source,
        tablesOf selection joins = .ok tables ∧
        tables.mapM (TableQuery.ofTable d selection joins) = .ok selects ∧
        Assembly.source schema selects joins = .ok source ∧
        a = ⟨outerQuery selection source filter, selection.outputs, tables⟩ := by
  have statement : ∀ source, (filter.map fun text =>
      (Query.mk (selection.outputs.map fun c => ⟨.ofTable c.table c.aliasName, none⟩)
        (some source) none []).filter (.verbatim text)).getD
      (.mk (selection.outputs.map fun c => ⟨.ofTable c.table c.aliasName, none⟩)
        (some source) none []) = outerQuery selection source filter := by
    intro source
    cases filter <;> rfl
  unfold assemble
  by_cases empty : selection.outputs = []
  · simp [empty, throw, throwThe, MonadExceptOf.throw, bind, Except.bind]
  · simp only [List.isEmpty_iff, empty, if_false, statement, bind_eq_ok_iff, ← forM_eq_ok_iff]
    constructor
    · rintro ⟨_, checked, tables, ht, selects, hs, source, h, eq⟩
      exact ⟨empty, checked, tables, selects, source, ht, hs, h, (Except.ok.inj eq).symm⟩
    · rintro ⟨-, checked, tables, selects, source, ht, hs, h, rfl⟩
      exact ⟨(), checked, tables, ht, selects, hs, source, h, rfl⟩

/-! ## Tables -/

/-- Without joins there is one table, and with joins the selected tables are among theirs. -/
theorem tablesOf_eq_ok_iff {tables : List String} :
    tablesOf selection joins = .ok tables ↔ selection.tables ≠ [] ∧
      (joins = [] ∧ (∃ only, selection.tables = [only] ∧ tables = [only.table]) ∨
        joins ≠ [] ∧ (∀ p ∈ selection.tables, p.table ∈ joinedTables joins) ∧
          tables = joinedTables joins) := by
  unfold tablesOf
  rcases selected : selection.tables with _ | ⟨first, rest⟩
  · simp
  · cases joins with
    | nil => cases rest <;> simp [eq_comm]
    | cons l ls =>
      simp only [ne_eq, reduceCtorEq, not_false_eq_true, false_and, true_and, false_or]
      split
      next p missing =>
        have mem := List.mem_of_find?_eq_some missing
        have absent : p.table ∉ joinedTables (l :: ls) := by simpa using List.find?_some missing
        simp only [reduceCtorEq, false_iff, not_and]
        exact fun all => absurd (all p mem) absent
      next all =>
        have all : ∀ p ∈ first :: rest, p.table ∈ joinedTables (l :: ls) := by
          simpa using List.find?_eq_none.1 all
        rw [Except.ok.injEq, eq_comm]
        exact ⟨fun eq => ⟨all, eq⟩, fun h => h.2⟩

end Joinery
