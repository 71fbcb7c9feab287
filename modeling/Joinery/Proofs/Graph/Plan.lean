import Joinery.Graph.Plan
import Joinery.Proofs.Graph.Path

/-!
# Plans of paths

A path along links of a graph has a plan (`exists_plan`), and each step of a plan has the usable link
that joins the tables of its edge.
-/

namespace Joinery

/-- The edge whose tables a link joins. -/
def Link.edge (l : Link) : JoinEdge :=
  ⟨l.leftTable, l.rightTable⟩

namespace JoinGraph

variable {g : JoinGraph} {p : JoinPath} {steps : List JoinStep}

theorem WellFormed.planStep_eq_ok (wf : g.WellFormed) {e : JoinEdge} {s : JoinStep}
    (h : g.planStep e = .ok s) : s.condition.edge = e ∧ s.condition.Usable := by
  obtain ⟨l, found, rfl⟩ := map_eq_ok_iff.1 h
  unfold condition at found
  split at found
  next m linked =>
    obtain rfl := Except.ok.inj found
    have mem := List.mem_of_find?_eq_some linked
    have right : m.rightTable = e.right := by simpa using List.find?_some linked
    exact ⟨by rw [Link.edge, wf.leftTable_eq _ m mem, right], wf.usable _ m mem⟩
  next => cases found

theorem WellFormed.exists_plan (wf : g.WellFormed)
    (linked : ∀ e ∈ p.edges, e.right ∈ g.neighbors e.left) : ∃ steps, g.plan p = .ok steps := by
  refine exists_mapM_eq_ok fun e he => ?_
  obtain ⟨l, found, -⟩ := wf.exists_link? (linked e he)
  exact ⟨⟨e, l⟩, by rw [planStep, condition, found]; rfl⟩

theorem WellFormed.map_edge_plan (wf : g.WellFormed) (h : g.plan p = .ok steps) :
    (steps.map (·.condition)).map (·.edge) = p.edges := by
  have pairs := mapM_eq_ok_iff.1 h
  rw [List.map_map]
  clear h
  generalize p.edges = edges at pairs
  induction pairs with
  | nil => rfl
  | cons step _ ih => rw [List.map_cons, ih, Function.comp_apply, (wf.planStep_eq_ok step).1]

theorem WellFormed.usable_of_plan (wf : g.WellFormed) (h : g.plan p = .ok steps) {l : Link}
    (hl : l ∈ steps.map (·.condition)) : l.Usable := by
  obtain ⟨s, hs, rfl⟩ := List.mem_map.1 hl
  obtain ⟨e, -, step⟩ := exists_of_mem_result h hs
  exact (wf.planStep_eq_ok step).2

end JoinGraph

end Joinery
