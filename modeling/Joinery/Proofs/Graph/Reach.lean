import Mathlib.Logic.Relation
import Joinery.Proofs.Graph.Search

/-!
# What a table reaches

`JoinGraph.Reaches` says that links lead from one table to another. Tables that reach each other are in
one piece of the graph, and a search from a table finds exactly its piece (`exists_hops_iff`): a search
makes a step for every table of the graph, so nothing is left waiting at its end, and then the neighbours
of what was visited were visited too (`Searching.closed_visitAll`). More steps find nothing new
(`visitAll_eq_of_le`).
-/

namespace Joinery

namespace JoinGraph

/-- Links lead from one table to another. -/
def Reaches (g : JoinGraph) : String → String → Prop :=
  Relation.ReflTransGen fun a b => b ∈ g.neighbors a

variable {g : JoinGraph} {source : String}

theorem WellFormed.reaches_comm (wf : g.WellFormed) {a b : String} :
    g.Reaches a b ↔ g.Reaches b a := by
  have one_way : ∀ {a b}, g.Reaches a b → g.Reaches b a := by
    intro a b reached
    induction reached with
    | refl => exact .refl
    | tail _ linked ih => exact .head (wf.mem_neighbors_comm.1 linked) ih
  exact ⟨one_way, one_way⟩

theorem WellFormed.mem_tables_of_mem_neighbors (wf : g.WellFormed) {a b : String}
    (h : b ∈ g.neighbors a) : b ∈ g.tables := by
  obtain ⟨l, hl, -⟩ := List.mem_map.1 (wf.mem_neighbors_comm.1 h)
  exact mem_tables_of_mem_links hl

/-! ## Visits are reached -/

theorem Follows.mem_tables (wf : g.WellFormed) (known : source ∈ g.tables) {earlier : List Visit}
    {v : Visit} (h : g.Follows source earlier v) : v.table ∈ g.tables := by
  cases h with
  | start => exact known
  | step _ linked => exact wf.mem_tables_of_mem_neighbors linked

theorem Trail.mem_tables (wf : g.WellFormed) (known : source ∈ g.tables) {visits : List Visit}
    (h : g.Trail source visits) {v : Visit} (mem : v ∈ visits) : v.table ∈ g.tables := by
  induction h with
  | nil => cases mem
  | cons follows _ _ ih =>
    rcases List.mem_cons.1 mem with rfl | mem
    · exact follows.mem_tables wf known
    · exact ih mem

theorem Follows.reaches {earlier : List Visit} {v : Visit} (h : g.Follows source earlier v)
    (reached : ∀ u ∈ earlier, g.Reaches source u.table) : g.Reaches source v.table := by
  cases h with
  | start => exact .refl
  | step mem linked => exact (reached _ mem).tail linked

theorem Trail.reaches {visits : List Visit} (h : g.Trail source visits) :
    ∀ v ∈ visits, g.Reaches source v.table := by
  induction h with
  | nil => exact fun v mem => absurd mem List.not_mem_nil
  | cons follows _ _ ih => exact List.forall_mem_cons.2 ⟨follows.reaches ih, ih⟩

/-! ## Everything that is reached is visited -/

/-- The neighbours of what is done are done or waiting. -/
def Covers (g : JoinGraph) (waiting done : List Visit) : Prop :=
  ∀ v ∈ done, ∀ table ∈ g.neighbors v.table, table ∈ (waiting ++ done).map (·.table)

/-- A step loses no visit. -/
theorem subset_step (g : JoinGraph) (v : Visit) (waiting done : List Visit) :
    v :: waiting ++ done ⊆ waiting ++ g.nextVisits v (v :: waiting ++ done) ++ v :: done := by
  intro u hu
  simp only [List.cons_append, List.mem_cons, List.mem_append] at hu ⊢
  tauto

theorem Covers.step {v : Visit} {waiting done : List Visit} (h : g.Covers (v :: waiting) done) :
    g.Covers (waiting ++ g.nextVisits v (v :: waiting ++ done)) (v :: done) := by
  have kept := List.map_subset (·.table) (subset_step g v waiting done)
  intro u hu table linked
  rcases List.mem_cons.1 hu with rfl | hu
  · by_cases seen : table ∈ (u :: waiting ++ done).map (·.table)
    · exact kept seen
    · have next := mem_nextVisits.2 ⟨table, linked, seen, rfl⟩
      exact List.mem_map.2 ⟨_, by simp only [List.mem_append]; exact .inl (.inr next), rfl⟩
  · exact kept (h u hu table linked)

/-- Each table of the graph is done or waiting at most once. -/
theorem Searching.length_le (wf : g.WellFormed) (known : source ∈ g.tables)
    {waiting done : List Visit} (h : g.Searching source waiting done) :
    waiting.length + done.length ≤ g.tableCount := by
  have sub : (waiting ++ done).map (·.table) ⊆ g.tables := by
    intro table mem
    obtain ⟨v, hv, rfl⟩ := List.mem_map.1 mem
    rcases List.mem_append.1 hv with hv | hv
    · exact (h.follows v hv).mem_tables wf known
    · exact h.trail.mem_tables wf known hv
  have le := h.nodup.length_le_of_subset sub
  rwa [List.length_map, List.length_append, tables, List.length_map] at le

/-- When as many steps were made as there are tables, nothing waits. -/
theorem Searching.waiting_eq_nil (wf : g.WellFormed) (known : source ∈ g.tables)
    {waiting done : List Visit} (h : g.Searching source waiting done)
    (all_done : g.tableCount ≤ done.length) : waiting = [] := by
  have le := h.length_le wf known
  exact List.length_eq_zero_iff.1 (by omega)

/-- What every step keeps holds at the end if a step is made for every table, and then nothing waits. -/
theorem Searching.visitAll_invariant (wf : g.WellFormed) (known : source ∈ g.tables)
    {P : List Visit → List Visit → Prop}
    (step : ∀ v waiting done, P (v :: waiting) done →
      P (waiting ++ g.nextVisits v (v :: waiting ++ done)) (v :: done)) {steps : Nat}
    {waiting done : List Visit} (h : g.Searching source waiting done) (start : P waiting done)
    (enough : g.tableCount ≤ steps + done.length) : P [] (g.visitAll steps waiting done) := by
  induction steps generalizing waiting done with
  | zero =>
    obtain rfl := h.waiting_eq_nil wf known (by omega)
    exact start
  | succ steps ih =>
    cases waiting with
    | nil => exact start
    | cons v waiting =>
      exact ih (h.step wf) (step v waiting done start) (by rw [List.length_cons]; omega)

/-- With a step for every table, all that was waiting is visited, and the visits lead nowhere else. -/
theorem Searching.closed_visitAll (wf : g.WellFormed) (known : source ∈ g.tables) {steps : Nat}
    {waiting done : List Visit} (h : g.Searching source waiting done) (covers : g.Covers waiting done)
    (enough : g.tableCount ≤ steps + done.length) :
    waiting ++ done ⊆ g.visitAll steps waiting done ∧
      g.Covers [] (g.visitAll steps waiting done) := by
  refine h.visitAll_invariant wf known
    (P := fun later visited => waiting ++ done ⊆ later ++ visited ∧ g.Covers later visited)
    (fun v later visited kept => ⟨?_, kept.2.step⟩) ⟨List.Subset.refl _, covers⟩ enough
  exact List.Subset.trans kept.1 (subset_step g v later visited)

/-- Steps beyond the number of tables change nothing. -/
theorem Searching.visitAll_eq (wf : g.WellFormed) (known : source ∈ g.tables) {steps steps' : Nat}
    {waiting done : List Visit} (h : g.Searching source waiting done)
    (enough : g.tableCount ≤ steps + done.length) (more : steps ≤ steps') :
    g.visitAll steps' waiting done = g.visitAll steps waiting done := by
  induction steps generalizing steps' waiting done with
  | zero =>
    obtain rfl := h.waiting_eq_nil wf known (by omega)
    cases steps' <;> rfl
  | succ steps ih =>
    cases steps' with
    | zero => exact absurd more (Nat.not_succ_le_zero steps)
    | succ steps' =>
      cases waiting with
      | nil => rfl
      | cons v waiting =>
        exact ih (h.step wf) (by rw [List.length_cons]; omega) (Nat.le_of_succ_le_succ more)

theorem visitAll_eq_of_le (wf : g.WellFormed) (known : source ∈ g.tables) {steps : Nat}
    (enough : g.tableCount ≤ steps) :
    g.visitAll steps [⟨source, 0, none⟩] [] = (g.search source).visits :=
  (searching_start g source).visitAll_eq wf known (Nat.le_refl _) enough

/-- A search visits what its source reaches. -/
theorem mem_visits_iff (wf : g.WellFormed) (known : source ∈ g.tables) {target : String} :
    target ∈ (g.search source).visits.map (·.table) ↔ g.Reaches source target := by
  constructor
  · intro mem
    obtain ⟨v, hv, rfl⟩ := List.mem_map.1 mem
    exact (trail_search wf source).reaches v hv
  · intro reached
    obtain ⟨sub, closed⟩ := (searching_start g source).closed_visitAll wf known
      (fun v hv => absurd hv List.not_mem_nil) (Nat.le_refl g.tableCount)
    induction reached with
    | refl => exact List.mem_map.2 ⟨⟨source, 0, none⟩, sub (by simp), rfl⟩
    | tail _ linked ih =>
      obtain ⟨v, hv, rfl⟩ := List.mem_map.1 ih
      exact closed v hv _ linked

/-- A search knows the distance of what its source reaches, and of nothing else. -/
theorem exists_hops_iff (wf : g.WellFormed) (known : source ∈ g.tables) {target : String} :
    (∃ hops, (g.search source).hops? target = some hops) ↔ g.Reaches source target := by
  rw [← mem_visits_iff wf known, ← Option.isSome_iff_exists, Search.hops?, Option.isSome_map,
    List.find?_isSome, List.mem_map]
  simp

end JoinGraph

end Joinery
