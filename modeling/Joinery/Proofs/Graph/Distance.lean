import Joinery.Proofs.Graph.Reach

/-!
# Distances

The distance of two tables is the least number of links that lead from one to the other. A search visits
nearer tables first: what waits is ordered by distance, and no two distances in it differ by more than one
(`Layered`). So when a table is visited, all its neighbours are known at one link more or less
(`Spread`), and a search finds the distance of every table that it reaches (`hops?_eq_some_iff`). The route
that is read off the visits is as long as the distance (`length_route`).
-/

namespace Joinery

namespace JoinGraph

variable {g : JoinGraph} {source : String}

/-- Links lead from one table to another in some number of steps. -/
inductive Leads (g : JoinGraph) (source : String) : String → Nat → Prop
  | start : Leads g source source 0
  | step {table next : String} {n : Nat} (way : Leads g source table n)
      (linked : next ∈ g.neighbors table) : Leads g source next (n + 1)

/-- The least number of links that lead from one table to another. -/
structure Distance (g : JoinGraph) (source target : String) (n : Nat) : Prop where
  leads : g.Leads source target n
  least : ∀ m, g.Leads source target m → n ≤ m

theorem Leads.reaches {target : String} {n : Nat} (h : g.Leads source target n) :
    g.Reaches source target := by
  induction h with
  | start => exact .refl
  | step _ linked ih => exact ih.tail linked

theorem Distance.unique {target : String} {m n : Nat} (hm : g.Distance source target m)
    (hn : g.Distance source target n) : m = n :=
  Nat.le_antisymm (hm.least n hn.leads) (hn.least m hm.leads)

/-! ## Visits are in order -/

/-- What waits is ordered by distance, stands behind what is done, and differs by one link at most. -/
structure Layered (waiting done : List Visit) : Prop where
  sorted : waiting.Pairwise (·.hops ≤ ·.hops)
  near : ∀ v ∈ waiting, ∀ w ∈ waiting, w.hops ≤ v.hops + 1
  behind : ∀ u ∈ done, ∀ v ∈ waiting, u.hops ≤ v.hops

/-- The neighbours of what is done are known, and no further away than one link more. -/
def Spread (g : JoinGraph) (waiting done : List Visit) : Prop :=
  ∀ v ∈ done, ∀ table ∈ g.neighbors v.table,
    ∃ u ∈ waiting ++ done, u.table = table ∧ u.hops ≤ v.hops + 1

theorem layered_start (source : String) : Layered [⟨source, 0, none⟩] [] where
  sorted := List.pairwise_singleton _ _
  near := by simp
  behind := nofun

theorem hops_of_mem_nextVisits {u v : Visit} {known : List Visit} (h : v ∈ g.nextVisits u known) :
    v.hops = u.hops + 1 := by
  obtain ⟨table, -, -, rfl⟩ := mem_nextVisits.1 h
  rfl

theorem Layered.step {v : Visit} {waiting done : List Visit} (h : Layered (v :: waiting) done)
    (known : List Visit) : Layered (waiting ++ g.nextVisits v known) (v :: done) := by
  obtain ⟨first, sorted⟩ := List.pairwise_cons.1 h.sorted
  have near : ∀ w ∈ waiting, w.hops ≤ v.hops + 1 := fun w hw => h.near v (by simp) w (by simp [hw])
  have next : ∀ w ∈ g.nextVisits v known, w.hops = v.hops + 1 := fun w => hops_of_mem_nextVisits
  -- What waits next is as far as the visited table or one link further.
  have above : ∀ w ∈ waiting ++ g.nextVisits v known, v.hops ≤ w.hops ∧ w.hops ≤ v.hops + 1 := by
    intro w hw
    rcases List.mem_append.1 hw with hw | hw
    · exact ⟨first w hw, near w hw⟩
    · rw [next w hw]
      omega
  constructor
  case sorted =>
    refine List.pairwise_append.2 ⟨sorted, ?_, fun w hw x hx => ?_⟩
    · exact List.pairwise_of_forall_mem_list fun w hw x hx => by rw [next w hw, next x hx]
    · rw [next x hx]
      exact near w hw
  case near =>
    intro w hw x hx
    have low := (above w hw).1
    have high := (above x hx).2
    omega
  case behind =>
    intro u hu w hw
    have low := (above w hw).1
    rcases List.mem_cons.1 hu with rfl | hu
    · exact low
    · exact (h.behind u hu v (by simp)).trans low

/-- A neighbour that was known before is no further away than those that wait. -/
theorem Spread.step {v : Visit} {waiting done : List Visit} (layered : Layered (v :: waiting) done)
    (h : g.Spread (v :: waiting) done) :
    g.Spread (waiting ++ g.nextVisits v (v :: waiting ++ done)) (v :: done) := by
  have kept := subset_step g v waiting done
  intro u hu table linked
  rcases List.mem_cons.1 hu with rfl | hu
  · by_cases seen : table ∈ (u :: waiting ++ done).map (·.table)
    · -- It waits, so it is one link further at most, or it came earlier, so it is no further at all.
      obtain ⟨w, hw, rfl⟩ := List.mem_map.1 seen
      refine ⟨w, kept hw, rfl, ?_⟩
      rcases List.mem_append.1 hw with hw | hw
      · exact layered.near u (by simp) w hw
      · exact Nat.le_succ_of_le (layered.behind w hw u (by simp))
    · have next := mem_nextVisits.2 ⟨table, linked, seen, rfl⟩
      exact ⟨_, List.mem_append_left _ (List.mem_append_right _ next), rfl, Nat.le_refl _⟩
  · obtain ⟨w, hw, same, le⟩ := h u hu table linked
    exact ⟨w, kept hw, same, le⟩

/-- At the end of a search no neighbour of a visited table is further away than one link more. -/
theorem spread_search (wf : g.WellFormed) (known : source ∈ g.tables) :
    g.Spread [] (g.search source).visits := by
  refine ((searching_start g source).visitAll_invariant wf known
    (P := fun waiting done => Layered waiting done ∧ g.Spread waiting done)
    (fun v waiting done kept => ⟨kept.1.step _, kept.2.step kept.1⟩)
    ⟨layered_start source, nofun⟩ (Nat.le_add_right _ _)).2

/-! ## Searches find distances -/

theorem Follows.leads {earlier : List Visit} {v : Visit} (h : g.Follows source earlier v)
    (found : ∀ u ∈ earlier, g.Leads source u.table u.hops) : g.Leads source v.table v.hops := by
  cases h with
  | start => exact .start
  | step mem linked => exact (found _ mem).step linked

theorem Trail.leads {visits : List Visit} (h : g.Trail source visits) :
    ∀ v ∈ visits, g.Leads source v.table v.hops := by
  induction h with
  | nil => exact nofun
  | cons follows _ _ ih => exact List.forall_mem_cons.2 ⟨follows.leads ih, ih⟩

/-- A table that links lead to in some steps is visited, and no later than these lead to it. -/
theorem exists_visit_of_leads (wf : g.WellFormed) (known : source ∈ g.tables) {target : String}
    {n : Nat} (way : g.Leads source target n) :
    ∃ v ∈ (g.search source).visits, v.table = target ∧ v.hops ≤ n := by
  induction way with
  | start =>
    obtain ⟨visited, -⟩ := (searching_start g source).closed_visitAll wf known nofun
      (Nat.le_refl g.tableCount)
    exact ⟨⟨source, 0, none⟩, visited (by simp), rfl, Nat.le_refl 0⟩
  | step _ linked ih =>
    obtain ⟨u, hu, rfl, le⟩ := ih
    obtain ⟨v, hv, same, le'⟩ := spread_search wf known u hu _ linked
    exact ⟨v, hv, same, le'.trans (Nat.succ_le_succ le)⟩

theorem distance_of_mem_visits (wf : g.WellFormed) (known : source ∈ g.tables) {v : Visit}
    (mem : v ∈ (g.search source).visits) : g.Distance source v.table v.hops where
  leads := (trail_search wf source).leads v mem
  least m way := by
    obtain ⟨u, hu, same, le⟩ := exists_visit_of_leads wf known way
    obtain rfl := List.inj_on_of_nodup_map (trail_search wf source).nodup hu mem same
    exact le

/-- A search knows the distances from its source. -/
theorem hops?_eq_some_iff (wf : g.WellFormed) (known : source ∈ g.tables) {target : String} {n : Nat} :
    (g.search source).hops? target = some n ↔ g.Distance source target n := by
  have found : ∀ m, (g.search source).hops? target = some m → g.Distance source target m := by
    intro m h
    obtain ⟨v, mem, rfl, rfl⟩ := exists_visit_of_hops? h
    exact distance_of_mem_visits wf known mem
  refine ⟨found n, fun distance => ?_⟩
  obtain ⟨m, h⟩ := (exists_hops_iff wf known).2 distance.leads.reaches
  rw [h, (found m h).unique distance]

/-! ## Routes are as long as distances -/

/-- The way back from a visit has one table more than the visit counts links. -/
theorem Trail.length_wayBack {visits : List Visit} (h : g.Trail source visits) {v : Visit}
    (mem : v ∈ visits) : (Search.wayBack visits v.table).length = v.hops + 1 := by
  induction h generalizing v with
  | nil => cases mem
  | @cons w earlier follows fresh trail ih =>
    by_cases here : w.table = v.table
    · have nodup := (Trail.cons follows fresh trail).nodup
      obtain rfl := List.inj_on_of_nodup_map nodup (by simp) mem here
      cases follows with
      | start => simp [Search.wayBack]
      | @step u table reached linked =>
        rw [← ih reached]
        simp [Search.wayBack]
    · have mem : v ∈ earlier := by
        rcases List.mem_cons.1 mem with rfl | mem
        · exact absurd rfl here
        · exact mem
      rw [← ih mem]
      simp [Search.wayBack, here]

theorem length_route (wf : g.WellFormed) {target : String} {n : Nat}
    (h : (g.search source).hops? target = some n) :
    ((g.search source).route target).length = n + 1 := by
  obtain ⟨v, mem, rfl, rfl⟩ := exists_visit_of_hops? h
  rw [Search.route, List.length_reverse]
  exact (trail_search wf source).length_wayBack mem

/-! ## Graphs with the same links -/

theorem Leads.of_neighbors {g' : JoinGraph} (same : ∀ a b, b ∈ g.neighbors a → b ∈ g'.neighbors a)
    {target : String} {n : Nat} (h : g.Leads source target n) : g'.Leads source target n := by
  induction h with
  | start => exact .start
  | step _ linked ih => exact ih.step (same _ _ linked)

/-- Distances depend on which tables are linked, not on the order of the links. -/
theorem distance_congr {g' : JoinGraph} (same : ∀ a b, b ∈ g.neighbors a ↔ b ∈ g'.neighbors a)
    {target : String} {n : Nat} : g.Distance source target n ↔ g'.Distance source target n := by
  have leads : ∀ m, g.Leads source target m ↔ g'.Leads source target m := fun m =>
    ⟨.of_neighbors fun a b => (same a b).1, .of_neighbors fun a b => (same a b).2⟩
  exact ⟨fun h => ⟨(leads n).1 h.leads, fun m way => h.least m ((leads m).2 way)⟩,
    fun h => ⟨(leads n).2 h.leads, fun m way => h.least m ((leads m).1 way)⟩⟩

end JoinGraph

end Joinery
