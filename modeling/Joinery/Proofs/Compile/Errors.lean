import Joinery.Proofs.Assembly.Faults
import Joinery.Proofs.Compile.Stages
import Joinery.Proofs.Request.Selection

/-!
# Errors of compilation

The stages of a compilation hand over what the next one needs: a resolved path has a plan, its joins
fit each other, and they reach every selected table. So an error always tells of the request, of the
catalog, or of tables that cannot be joined, and never of stages that disagree.
-/

namespace Joinery

open Assembly JoinGraph

/-- An error that says that two stages of a compilation disagree. -/
def CompileError.Inconsistent : CompileError → Prop
  | graph (.notLinked ..) | assembly (.tableNotInPath _) | assembly (.columnCounts ..)
  | assembly (.emptyCondition ..) | assembly (.disconnectedEdge ..) => True
  | _ => False

/-! ## Errors of the graph -/

namespace JoinGraph

theorem build_error {ls : List Link} {e : GraphError} (h : build ls = .error e) :
    ∃ left right fault, e = .badLink left right fault := by
  obtain ⟨l, -, g, step⟩ := exists_of_foldlM_eq_error h
  unfold add at step
  split at step
  · exact ⟨_, _, _, (Except.error.inj step).symm⟩
  · cases step

theorem costMatrix_error {searches : List Search} {e : GraphError}
    (h : costMatrix searches = .error e) : ∃ source target, e = .disconnected source target := by
  obtain ⟨r, -, row⟩ := exists_of_mapM_eq_error h
  obtain ⟨s, -, cell⟩ := exists_of_mapM_eq_error row
  split at cell
  · cases cell
  · exact ⟨_, _, (Except.error.inj cell).symm⟩

theorem resolve_error {g : JoinGraph} {required : List String} {e : GraphError}
    (h : g.resolve required = .error e) :
    (∃ table, e = .unknownTable table) ∨ ∃ source target, e = .disconnected source target := by
  unfold resolve at h
  dsimp only at h
  split_ifs at h
  split at h
  · exact .inl ⟨_, (Except.error.inj h).symm⟩
  · rcases bind_eq_error_iff.1 h with h | ⟨cost, -, h⟩
    · exact .inr (costMatrix_error h)
    · cases h

end JoinGraph

/-! ## Joins of a resolved path -/

/-- What the joins of a path have to be for a statement that shows some tables. -/
structure JoinsFit (required : List String) (joins : List Link) : Prop where
  usable : ∀ l ∈ joins, l.Usable
  attached : JoinPath.Attached (joins.map (·.edge))
  single : joins = [] → required.length ≤ 1
  covered : joins ≠ [] → ∀ table ∈ required, table ∈ joinedTables joins

theorem Link.Usable.checkJoin_eq_ok {l : Link} (h : l.Usable) : checkJoin l = .ok () :=
  checkJoin_eq_ok_iff.2 ⟨h.columns_ne_nil, h.length_eq⟩

/-- Tables that come once and were joined have a plan, and its joins fit. -/
theorem exists_plan_of_resolve {g : JoinGraph} (wf : g.WellFormed) {required : List String}
    (nodup : required.Nodup) {p : JoinPath} (resolved : g.resolve required = .ok p) :
    ∃ steps, g.plan p = .ok steps ∧ JoinsFit required (steps.map (·.condition)) := by
  by_cases two : 2 ≤ required.eraseDups.length
  · have spans := JoinGraph.spans_of_resolve wf resolved two
    obtain ⟨steps, planned⟩ := wf.exists_plan fun e he => (spans.linked e he).2.1
    have edges := wf.map_edge_plan planned
    refine ⟨steps, planned, fun l hl => wf.usable_of_plan planned hl, edges ▸ spans.attached, ?_, ?_⟩
    · intro none_left
      rw [none_left] at edges
      exact absurd edges.symm spans.ne_nil
    · intro _ table mem
      obtain ⟨e, he, touches⟩ := spans.covers table mem
      obtain ⟨l, hl, rfl⟩ := List.mem_map.1 (edges ▸ he)
      exact mem_joinedTables_iff.2 ⟨l, hl, touches⟩
  · have none_needed : p = {} := by
      unfold JoinGraph.resolve at resolved
      rw [if_pos (Nat.not_le.1 two)] at resolved
      exact (Except.ok.inj resolved).symm
    subst none_needed
    rw [eraseDups_of_nodup nodup] at two
    refine ⟨[], rfl, fun l hl => absurd hl (List.not_mem_nil), ?_, fun _ => by omega, ?_⟩
    · exact fun before e after eq => absurd eq (by simp)
    · exact fun ne => absurd rfl ne

/-! ## Errors of a whole compilation -/

/-- What can still be wrong when everything else has succeeded. -/
theorem assemble_error_of_stages {d : Dialect} {links : List Link} {r : QueryRequest}
    {filter : Option FilterExpr} {selection : Selection} {graph : JoinGraph} {path : JoinPath}
    (selected : Selection.ofRequest r filter = .ok selection)
    (built : JoinGraph.build links = .ok graph)
    (resolved : graph.resolve selection.requiredTables = .ok path) :
    ∃ steps, graph.plan path = .ok steps ∧ ∀ schema e,
      assemble d schema selection (steps.map (·.condition)) (filter.map (·.text)) = .error e →
        e = .emptyProjection ∧ selection.requiredTables = [] ∨
        e = .noOutputColumns ∧ r.dimensionData = [] ∧ r.measureData = [] ∧
          selection.requiredTables ≠ [] ∨
        ∃ table aliasName, e = .aliasConflict table aliasName := by
  obtain ⟨steps, planned, fit⟩ := exists_plan_of_resolve (JoinGraph.wellFormed_of_build built)
    (Selection.nodup_requiredTables selected) resolved
  refine ⟨steps, planned, fun schema e failed => ?_⟩
  have names : selection.requiredTables = [] ↔ selection.tables = [] := List.map_eq_nil_iff
  have cases := assemble_error_cases
    (fun l hl => checkJoin_eq_ok_iff_paired.1 (fit.usable l hl).checkJoin_eq_ok) fit.attached
    (fun none_left => by simpa [Selection.requiredTables] using fit.single none_left)
    (fun ne p hp => fit.covered ne p.table (List.mem_map_of_mem hp)) failed
  rcases cases with ⟨rfl, none_left⟩ | ⟨rfl, empty, some_table⟩ | conflict
  · exact .inl ⟨rfl, names.2 none_left⟩
  · obtain ⟨no_dimension, no_measure⟩ := Selection.eq_nil_of_outputs_eq_nil selected empty
    exact .inr (.inl ⟨rfl, no_dimension, no_measure, fun none_left => some_table (names.1 none_left)⟩)
  · exact .inr (.inr conflict)

/-- Stages of a compilation never disagree: once the filter is read, the columns are collected, the
graph is built and the path is resolved, the path has a plan, and a statement is missing only if the
request selects nothing or wants one name for two different things. -/
theorem compile_never_inconsistent (target : Target) (links : List Link) (r : QueryRequest) :
    (∀ e, compile target links r = .error e → ¬ e.Inconsistent) ∧
      ∀ filter selection graph path,
        FilterExpr.ofText target.dialect r.conditionData = .ok filter →
        Selection.ofRequest r filter = .ok selection →
        JoinGraph.build links = .ok graph →
        graph.resolve selection.requiredTables = .ok path →
        ∃ steps, graph.plan path = .ok steps ∧ ∀ schema e,
          assemble target.dialect schema selection (steps.map (·.condition))
              (filter.map (·.text)) = .error e →
            e = .emptyProjection ∧ selection.requiredTables = [] ∨
            e = .noOutputColumns ∧ r.dimensionData = [] ∧ r.measureData = [] ∧
              selection.requiredTables ≠ [] ∨
            ∃ table aliasName, e = .aliasConflict table aliasName := by
  refine ⟨fun e unanswered inconsistent => ?_, fun filter selection graph path _ selected built resolved =>
    assemble_error_of_stages selected built resolved⟩
  rcases compile_error_stages unanswered with
    ⟨_, rfl⟩ | ⟨_, rfl⟩ | ⟨_, failed, rfl⟩ | ⟨filter, selection, graph, selected, built, later⟩
  · exact inconsistent
  · exact inconsistent
  · obtain ⟨_, _, _, rfl⟩ := JoinGraph.build_error failed
    exact inconsistent
  rcases later with ⟨_, failed, rfl⟩ | ⟨path, resolved, later⟩
  · rcases JoinGraph.resolve_error failed with ⟨_, rfl⟩ | ⟨_, _, rfl⟩ <;> exact inconsistent
  obtain ⟨steps, planned, only⟩ :=
    assemble_error_of_stages (d := target.dialect) selected built resolved
  rcases later with ⟨_, failed, rfl⟩ | ⟨steps', _, planned', failed, rfl⟩
  · rw [planned] at failed
    cases failed
  · obtain rfl := Except.ok.inj (planned.symm.trans planned')
    rcases only _ _ failed with ⟨rfl, -⟩ | ⟨rfl, -⟩ | ⟨_, _, rfl⟩ <;> exact inconsistent

/-- The units that students of one gender took, by the year of the term, under a name for the year. -/
def unitsByYear (year : String) : QueryRequest where
  dimensionData := [⟨"term", "year", year⟩]
  measureData := [⟨"fact", "units", "sum", "Units"⟩]
  conditionData := "student.gender = 'F'"

/-- A year that is called `id` stands in the way of the column by which terms are joined. -/
theorem school_alias_conflict :
    ∃ e, compile {} schoolLinks (unitsByYear "id") = .error e ∧
      e = .assembly (.aliasConflict "term" "id") ∧ ¬ e.Inconsistent ∧
      ∃ graph path steps, JoinGraph.build schoolLinks = .ok graph ∧
        graph.resolve ["term", "fact", "student"] = .ok path ∧ graph.plan path = .ok steps := by
  have filter_ok : FilterExpr.ofText .postgres "student.gender = 'F'" =
      .ok (some ⟨"student.gender = 'F'", [⟨"student", "gender"⟩]⟩) := by decide +kernel
  have selected : Selection.ofRequest (unitsByYear "id")
      (some ⟨"student.gender = 'F'", [⟨"student", "gender"⟩]⟩) =
      .ok ⟨[⟨"term", [⟨"year", "id"⟩], [], []⟩, ⟨"fact", [], [⟨"units", .sum, "Units"⟩], []⟩,
        ⟨"student", [], [], ["gender"]⟩], [⟨"term", "id"⟩, ⟨"fact", "Units"⟩]⟩ := by
    decide +kernel
  have found : (JoinGraph.build schoolLinks >>= (·.resolve ["term", "fact", "student"])) =
      .ok ⟨[⟨"fact", "term"⟩, ⟨"fact", "student"⟩]⟩ := by decide +kernel
  obtain ⟨graph, built, resolved⟩ := bind_eq_ok_iff.1 found
  have failed : compile {} schoolLinks (unitsByYear "id") =
      .error (.assembly (.aliasConflict "term" "id")) := by
    decide +kernel
  obtain ⟨never, planned⟩ := compile_never_inconsistent {} schoolLinks (unitsByYear "id")
  obtain ⟨steps, planned, -⟩ := planned _ _ graph _ filter_ok selected built resolved
  exact ⟨_, failed, rfl, never _ failed, graph, _, steps, built, resolved, planned⟩

end Joinery
