import Joinery.Proofs.Graph.Distance
import Joinery.Proofs.Graph.Resolve

/-!
# Distances are a metric

Links lead back the way they came, and ways can be joined, so the distances of a well-formed graph are
symmetric and no way around is shorter. The table of distances between different stops that reach each
other inherits this (`isMetric_of_costMatrix`).
-/

namespace Joinery

namespace CostMatrix

/-- The way back is as long as the way there. -/
def Symmetric (cost : CostMatrix) : Prop :=
  ∀ i j, cost.between i j = cost.between j i

/-- The distances between a number of stops are those of a metric space. -/
structure IsMetric (cost : CostMatrix) (stops : Nat) : Prop where
  rows : cost.length = stops
  columns : ∀ row ∈ cost, row.length = stops
  symmetric : cost.Symmetric
  eq_zero_iff : ∀ i < stops, ∀ j < stops, cost.between i j = 0 ↔ i = j
  triangle : ∀ i < stops, ∀ j < stops, ∀ k < stops,
    cost.between i k ≤ cost.between i j + cost.between j k

theorem between_eq_zero_of_row {cost : CostMatrix} {i : Nat} (h : cost.length ≤ i) (j : Nat) :
    cost.between i j = 0 := by
  rw [between, List.getElem?_eq_none h]
  rfl

theorem between_eq_zero_of_column {cost : CostMatrix} {j : Nat}
    (h : ∀ row ∈ cost, row.length ≤ j) (i : Nat) : cost.between i j = 0 := by
  unfold between
  cases found : cost[i]? with
  | none => rfl
  | some row =>
    rw [Option.bind_some, List.getElem?_eq_none (h row (List.mem_of_getElem? found))]
    rfl

/-- Beyond its rows and columns a square matrix is symmetric anyway. -/
theorem symmetric_of_lt {cost : CostMatrix} (square : ∀ row ∈ cost, row.length = cost.length)
    (inside : ∀ i < cost.length, ∀ j < cost.length, cost.between i j = cost.between j i) :
    cost.Symmetric := by
  have beyond : ∀ i j, cost.length ≤ i → cost.between i j = cost.between j i := by
    intro i j h
    rw [between_eq_zero_of_row h, between_eq_zero_of_column fun row mem => (square row mem).le.trans h]
  intro i j
  by_cases hi : i < cost.length
  · by_cases hj : j < cost.length
    · exact inside i hi j hj
    · exact (beyond j i (Nat.not_lt.1 hj)).symm
  · exact beyond i j (Nat.not_lt.1 hi)

end CostMatrix

namespace JoinGraph

variable {g : JoinGraph} {a b c : String} {m n : Nat}

/-! ## Ways there and back -/

theorem Leads.trans (there : g.Leads a b m) (further : g.Leads b c n) : g.Leads a c (m + n) := by
  induction further with
  | start => exact there
  | step _ linked ih => exact ih.step linked

theorem Leads.symm (wf : g.WellFormed) (h : g.Leads a b n) : g.Leads b a n := by
  induction h with
  | start => exact .start
  | @step table next n _ linked ih =>
    have first : g.Leads next table 1 := .step .start (wf.mem_neighbors_comm.1 linked)
    rw [Nat.add_comm]
    exact first.trans ih

/-! ## Distances -/

theorem Distance.symm (wf : g.WellFormed) (h : g.Distance a b n) : g.Distance b a n where
  leads := h.leads.symm wf
  least m way := h.least m (way.symm wf)

theorem Distance.eq_zero_iff (h : g.Distance a b n) : n = 0 ↔ a = b := by
  constructor
  · rintro rfl
    cases h.leads
    rfl
  · rintro rfl
    exact Nat.le_zero.1 (h.least 0 .start)

theorem Distance.triangle {k : Nat} (direct : g.Distance a c k) (there : g.Distance a b m)
    (further : g.Distance b c n) : k ≤ m + n :=
  direct.least (m + n) (there.leads.trans further.leads)

/-! ## The table of distances -/

theorem distance_of_costMatrix (wf : g.WellFormed) {stops : List String} (known : stops ⊆ g.tables)
    {cost : CostMatrix} (costs : costMatrix (stops.map g.search) = .ok cost) {i j : Nat}
    (hi : i < stops.length) (hj : j < stops.length) :
    g.Distance stops[i] stops[j] (cost.between i j) := by
  have search_at : ∀ k (hk : k < stops.length), (stops.map g.search)[k]? = some (g.search stops[k]) := by
    intro k hk
    rw [List.getElem?_map, List.getElem?_eq_getElem hk]
    rfl
  exact (hops?_eq_some_iff wf (known (List.getElem_mem hi))).1
    (hops?_eq_between costs (search_at i hi) (search_at j hj))

theorem length_row_of_costMatrix {searches : List Search} {cost : CostMatrix}
    (costs : costMatrix searches = .ok cost) {row : List Nat} (mem : row ∈ cost) :
    row.length = searches.length := by
  obtain ⟨r, -, row_ok⟩ := exists_of_mem_result costs mem
  exact (mapM_eq_ok_iff.1 row_ok).length_eq.symm

/-- The distances between different tables that were found are those of a metric space. -/
theorem isMetric_of_costMatrix (wf : g.WellFormed) {stops : List String} (nodup : stops.Nodup)
    (known : stops ⊆ g.tables) {cost : CostMatrix}
    (costs : costMatrix (stops.map g.search) = .ok cost) : cost.IsMetric stops.length := by
  have rows : cost.length = stops.length := by rw [length_costMatrix costs, List.length_map]
  have columns : ∀ row ∈ cost, row.length = stops.length := by
    intro row mem
    rw [length_row_of_costMatrix costs mem, List.length_map]
  have distance := fun i hi j hj => distance_of_costMatrix wf known costs (i := i) (j := j) hi hj
  refine ⟨rows, columns, ?_, fun i hi j hj => ?_, fun i hi j hj k hk => ?_⟩
  · refine CostMatrix.symmetric_of_lt (rows ▸ columns) fun i hi j hj => ?_
    rw [rows] at hi hj
    exact (distance i hi j hj).unique ((distance j hj i hi).symm wf)
  · rw [(distance i hi j hj).eq_zero_iff, nodup.getElem_inj_iff]
  · exact (distance i hi k hk).triangle (distance i hi j hj) (distance j hj k hk)

/-- Stops that reach each other have a table of distances, and it is a metric. -/
theorem exists_isMetric (wf : g.WellFormed) {stops : List String} (nodup : stops.Nodup)
    (known : stops ⊆ g.tables) (connected : ∀ a ∈ stops, ∀ b ∈ stops, g.Reaches a b) :
    ∃ cost, costMatrix (stops.map g.search) = .ok cost ∧ cost.IsMetric stops.length := by
  have reached : ∀ r ∈ stops.map g.search, ∀ s ∈ stops.map g.search,
      ∃ hops, r.hops? s.source = some hops := by
    intro r hr s hs
    obtain ⟨a, ha, rfl⟩ := List.mem_map.1 hr
    obtain ⟨b, hb, rfl⟩ := List.mem_map.1 hs
    exact (exists_hops_iff wf (known ha)).2 (connected a ha b hb)
  obtain ⟨cost, costs⟩ := costMatrix_of_reached reached
  exact ⟨cost, costs, isMetric_of_costMatrix wf nodup known costs⟩

end JoinGraph

end Joinery
