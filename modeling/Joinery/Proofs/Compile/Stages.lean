import Joinery.Compile
import Joinery.Proofs.Assembly.Layout
import Joinery.Proofs.Graph.Plan

/-!
# Stages of a compilation

A compilation succeeds if all of its stages do (`compile_eq_ok_iff`) and fails in one of them
(`compile_error_stages`). The joins of a path are usable links, so the statement of a compilation has a
layout (`exists_layout_of_compile`).
-/

namespace Joinery

open Sql

variable {target : Target} {links : List Link} {r : QueryRequest}

/-- What each stage of a compilation gives to the later ones. -/
structure Stages (target : Target) (links : List Link) (r : QueryRequest) where
  filter : Option FilterExpr
  selection : Selection
  graph : JoinGraph
  path : JoinPath
  steps : List JoinStep
  assembled : Assembled
  filter_ok : FilterExpr.ofText target.dialect r.conditionData = .ok filter
  selected : Selection.ofRequest r filter = .ok selection
  built : JoinGraph.build links = .ok graph
  resolved : graph.resolve selection.requiredTables = .ok path
  planned : graph.plan path = .ok steps
  assembled_ok : assemble target.dialect (r.schema <|> target.schema) selection
    (steps.map (·.condition)) (filter.map (·.text)) = .ok assembled

namespace Stages

/-- The joins of the path. -/
def joins (c : Stages target links r) : List Link :=
  c.steps.map (·.condition)

/-- The answer that comes of the stages. -/
def answer (c : Stages target links r) : Answer :=
  ⟨c.assembled.query.toSql target.dialect, c.assembled.columns, c.path, target.dialect⟩

theorem usable (c : Stages target links r) {l : Link} (mem : l ∈ c.joins) : l.Usable :=
  (JoinGraph.wellFormed_of_build c.built).usable_of_plan c.planned mem

/-- The statement of a compilation has a layout. -/
theorem exists_layout (c : Stages target links r) : ∃ y inner,
    c.assembled.LaidOut target.dialect (r.schema <|> target.schema) c.selection c.joins
      (c.filter.map (·.text)) y inner :=
  Joinery.exists_layout (fun _ mem => (c.usable mem).tables_ne) c.assembled_ok

end Stages

theorem compileQuery_eq_ok_iff {assembled : Assembled} {path : JoinPath} :
    compileQuery target links r = .ok (assembled, path) ↔
      ∃ c : Stages target links r, c.assembled = assembled ∧ c.path = path := by
  constructor
  · intro h
    obtain ⟨filter, filter_ok, h⟩ := bind_eq_ok_iff.1 h
    obtain ⟨selection, selected, h⟩ := bind_eq_ok_iff.1 h
    obtain ⟨graph, built, h⟩ := bind_eq_ok_iff.1 h
    obtain ⟨path', resolved, h⟩ := bind_eq_ok_iff.1 h
    obtain ⟨steps, planned, h⟩ := bind_eq_ok_iff.1 h
    obtain ⟨assembled', assembled_ok, h⟩ := bind_eq_ok_iff.1 h
    obtain ⟨rfl, rfl⟩ := Prod.mk.inj (Except.ok.inj h)
    exact ⟨⟨filter, selection, graph, path', steps, assembled', mapError_eq_ok_iff.1 filter_ok,
      mapError_eq_ok_iff.1 selected, mapError_eq_ok_iff.1 built, mapError_eq_ok_iff.1 resolved,
      mapError_eq_ok_iff.1 planned, mapError_eq_ok_iff.1 assembled_ok⟩, rfl, rfl⟩
  · rintro ⟨c, rfl, rfl⟩
    simp only [compileQuery, c.filter_ok, c.selected, c.built, c.resolved, c.planned,
      c.assembled_ok, Except.mapError, bind, Except.bind]
    rfl

/-- A request is answered if all stages succeed. -/
theorem compile_eq_ok_iff {answer : Answer} :
    compile target links r = .ok answer ↔ ∃ c : Stages target links r, c.answer = answer := by
  unfold compile
  rw [bind_eq_ok_iff]
  constructor
  · rintro ⟨⟨assembled, path⟩, made, eq⟩
    obtain ⟨c, rfl, rfl⟩ := compileQuery_eq_ok_iff.1 made
    exact ⟨c, Except.ok.inj eq⟩
  · rintro ⟨c, rfl⟩
    exact ⟨_, compileQuery_eq_ok_iff.2 ⟨c, rfl, rfl⟩, rfl⟩

/-- A compilation fails in one of its stages. -/
theorem compile_error_stages {target : Target} {links : List Link} {r : QueryRequest}
    {e : CompileError} (h : compile target links r = .error e) :
    (∃ error, e = .filter error) ∨ (∃ error, e = .request error) ∨
      (∃ error, JoinGraph.build links = .error error ∧ e = .graph error) ∨
      ∃ filter selection graph, Selection.ofRequest r filter = .ok selection ∧
        JoinGraph.build links = .ok graph ∧
        ((∃ error, graph.resolve selection.requiredTables = .error error ∧ e = .graph error) ∨
          ∃ path, graph.resolve selection.requiredTables = .ok path ∧
            ((∃ error, graph.plan path = .error error ∧ e = .graph error) ∨
              ∃ steps error, graph.plan path = .ok steps ∧
                assemble target.dialect (r.schema <|> target.schema) selection
                  (steps.map (·.condition)) (filter.map (·.text)) = .error error ∧
                e = .assembly error)) := by
  rcases bind_eq_error_iff.1 h with h | ⟨_, -, h⟩
  swap
  · cases h
  rcases bind_eq_error_iff.1 h with h | ⟨filter, -, h⟩
  · obtain ⟨error, -, rfl⟩ := mapError_eq_error_iff.1 h
    exact .inl ⟨error, rfl⟩
  rcases bind_eq_error_iff.1 h with h | ⟨selection, selected, h⟩
  · obtain ⟨error, -, rfl⟩ := mapError_eq_error_iff.1 h
    exact .inr (.inl ⟨error, rfl⟩)
  rcases bind_eq_error_iff.1 h with h | ⟨graph, built, h⟩
  · obtain ⟨error, failed, rfl⟩ := mapError_eq_error_iff.1 h
    exact .inr (.inr (.inl ⟨error, failed, rfl⟩))
  refine .inr (.inr (.inr ⟨filter, selection, graph, mapError_eq_ok_iff.1 selected,
    mapError_eq_ok_iff.1 built, ?_⟩))
  rcases bind_eq_error_iff.1 h with h | ⟨path, resolved, h⟩
  · obtain ⟨error, failed, rfl⟩ := mapError_eq_error_iff.1 h
    exact .inl ⟨error, failed, rfl⟩
  refine .inr ⟨path, mapError_eq_ok_iff.1 resolved, ?_⟩
  rcases bind_eq_error_iff.1 h with h | ⟨steps, planned, h⟩
  · obtain ⟨error, failed, rfl⟩ := mapError_eq_error_iff.1 h
    exact .inl ⟨error, failed, rfl⟩
  rcases bind_eq_error_iff.1 h with h | ⟨_, -, h⟩
  · obtain ⟨error, failed, rfl⟩ := mapError_eq_error_iff.1 h
    exact .inr ⟨steps, error, mapError_eq_ok_iff.1 planned, failed, rfl⟩
  · cases h

end Joinery
