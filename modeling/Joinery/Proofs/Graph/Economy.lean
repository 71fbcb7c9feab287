import Mathlib.Data.List.Permutation
import Joinery.Proofs.Graph.Greedy
import Joinery.Proofs.Graph.LocalOptimum
import Joinery.Proofs.Graph.Reordered

/-!
# How short resolved paths are

A resolved path begins with the best greedy tour of the required tables, turns parts of it around as long as
that helps, and walks along the result. `Economical` says what is known about its length: the tour is no
longer than any greedy one, and of three tables at most no order is shorter, since turning parts around
reaches all of them (`Symmetric.tourCost_le_of_short`). The walk takes as many links as the tour counts, and
the path has no more edges. Two tables are joined along a shortest way.
-/

namespace Joinery

/-! ## Tours of few stops -/

namespace CostMatrix

variable {cost : CostMatrix}

theorem eq_or_eq_of_perm_pair {order : List Nat} {a b : Nat} (perm : order.Perm [a, b]) :
    order = [a, b] ∨ order = [b, a] := by
  simpa using List.mem_permutations'.2 perm

/-- Each order of three stops at most is a turn away from another one, or the way back of such an order. -/
theorem Symmetric.tourCost_le_of_short (symmetric : cost.Symmetric) {tour order : List Nat}
    (optimum : cost.IsLocalOptimum tour) (short : tour.length ≤ 3) (perm : order.Perm tour) :
    cost.tourCost tour ≤ cost.tourCost order := by
  have backwards := symmetric.tourCost_reverse
  match tour, short with
  | [], _ => rw [perm.eq_nil]
  | [a], _ => rw [List.perm_singleton.1 perm]
  | [a, b], _ =>
    rcases eq_or_eq_of_perm_pair perm with rfl | rfl
    · exact Nat.le_refl _
    · exact optimum 0 1 (by decide) (by simp)
  | [a, b, c], _ =>
    have first : cost.tourCost [a, b, c] ≤ cost.tourCost [b, a, c] :=
      optimum 0 1 (by decide) (by simp)
    have last : cost.tourCost [a, b, c] ≤ cost.tourCost [a, c, b] :=
      optimum 1 2 (by decide) (by simp)
    have orders : order = [a, b, c] ∨ order = [b, a, c] ∨ order = [b, c, a] ∨ order = [a, c, b] ∨
        order = [c, a, b] ∨ order = [c, b, a] := by
      simpa [or_assoc] using List.mem_permutations'.2 perm
    rcases orders with rfl | rfl | rfl | rfl | rfl | rfl
    · exact Nat.le_refl _
    · exact first
    · exact last.trans (backwards [a, c, b]).ge
    · exact last
    · exact first.trans (backwards [b, a, c]).ge
    · exact (backwards [a, b, c]).ge

theorem IsGreedyTour.eq_of_two (two : cost.length = 2) {start : Nat} {tour : List Nat}
    (h : cost.IsGreedyTour start tour) : start = 0 ∧ tour = [0, 1] ∨ start = 1 ∧ tour = [1, 0] := by
  have perm : tour.Perm (List.range 2) := two ▸ h.perm
  rcases eq_or_eq_of_perm_pair perm with rfl | rfl
  · exact .inl ⟨(Option.some.inj h.starts).symm, rfl⟩
  · exact .inr ⟨(Option.some.inj h.starts).symm, rfl⟩

theorem Symmetric.nearestNeighbourTour_of_two (symmetric : cost.Symmetric) (two : cost.length = 2) :
    cost.nearestNeighbourTour = [0, 1] := by
  have way_back : cost.tourCost [1, 0] = cost.tourCost [0, 1] := symmetric.tourCost_reverse [0, 1]
  obtain ⟨start, best⟩ := cost.exists_isBestGreedyTour (by omega)
  rcases best.greedy.eq_of_two two with ⟨-, first⟩ | ⟨rfl, second⟩
  · exact first
  · -- The tour from the first stop costs as much and starts earlier.
    have from_first : cost.IsGreedyTour 0 _ := cost.isGreedyTour_greedyTour (by omega)
    have dearer := best.earliest 0 Nat.zero_lt_one _ from_first
    rcases from_first.eq_of_two two with ⟨-, first⟩ | ⟨other, -⟩
    · rw [first, second, way_back] at dearer
      exact absurd dearer (Nat.lt_irrefl _)
    · exact absurd other Nat.zero_ne_one

theorem Symmetric.tour_of_two (symmetric : cost.Symmetric) (two : cost.length = 2) :
    cost.tour = [0, 1] := by
  have optimum : cost.IsLocalOptimum [0, 1] := by
    intro i k lt inside
    obtain ⟨rfl, rfl⟩ : i = 0 ∧ k = 1 := by
      simp only [List.length_cons, List.length_nil] at inside
      omega
    exact (symmetric.tourCost_reverse [0, 1]).ge
  rw [tour, symmetric.nearestNeighbourTour_of_two two]
  exact (symmetric.settles_twoOpt [0, 1]).unique (.done (symmetric.not_improvable_iff.2 optimum))

end CostMatrix

/-! ## Edges of a walk -/

namespace JoinPath

/-- A walk that passes no table twice takes no edge twice. -/
theorem nodup_steps {walk : List String} (nodup : walk.Nodup) : (steps walk).Nodup := by
  induction walk with
  | nil => exact List.nodup_nil
  | cons a walk ih =>
    obtain ⟨fresh, nodup⟩ := List.nodup_cons.1 nodup
    cases walk with
    | nil => exact List.nodup_nil
    | cons b walk =>
      refine List.nodup_cons.2 ⟨fun again => ?_, ih nodup⟩
      obtain ⟨c, d, part, same⟩ := mem_steps_iff.1 again
      have touched := same ▸ JoinEdge.touches_ofTables.2 (.inl rfl : a = a ∨ a = b)
      rcases JoinEdge.touches_ofTables.1 touched with rfl | rfl <;> exact fresh (part.subset (by simp))

theorem edges_ofWalk_of_nodup {walk : List String} (nodup : walk.Nodup) :
    (ofWalk walk).edges = steps walk :=
  eraseDups_of_nodup (nodup_steps nodup)

theorem length_ofWalk_le (walk : List String) : (ofWalk walk).length ≤ (steps walk).length :=
  (nodup_eraseDups _).length_le_of_subset fun _ => List.mem_eraseDups.1

end JoinPath

namespace JoinGraph

variable {g : JoinGraph} {required : List String} {p : JoinPath}

/-! ## The length of a path -/

/-- How far a path goes round to come by the required tables, in links. `cost` holds their distances, and
`walk` is the walk along the tour. -/
structure Economical (g : JoinGraph) (required : List String) (p : JoinPath) (cost : CostMatrix)
    (walk : List String) : Prop where
  distances : ∀ i j a b, required.eraseDups[i]? = some a → required.eraseDups[j]? = some b →
    g.Distance a b (cost.between i j)
  one_greedy : ∀ start < required.eraseDups.length, ∃! tour, cost.IsGreedyTour start tour
  greedy : ∃ start, cost.IsBestGreedyTour start cost.nearestNeighbourTour
  perm : cost.tour.Perm (List.range required.eraseDups.length)
  shorter : ∀ start tour, cost.IsGreedyTour start tour → cost.tourCost cost.tour ≤ cost.tourCost tour
  shortest : required.eraseDups.length ≤ 3 → ∀ order,
    order.Perm (List.range required.eraseDups.length) → cost.tourCost cost.tour ≤ cost.tourCost order
  walk_length : walk.length = cost.tourCost cost.tour + 1
  walk_linked : walk.IsChain fun a b => b ∈ g.neighbors a
  path_eq : p = .ofWalk walk
  path_length : p.length ≤ cost.tourCost cost.tour
  pair : ∀ a b, required.eraseDups = [a, b] →
    ∃ way, g.IsRoute a b way ∧ p.edges = JoinPath.steps way ∧ g.Distance a b p.length

section

variable {names : List String} {cost : CostMatrix}

theorem length_walk_of_tour (wf : g.WellFormed) (ne : names ≠ [])
    (costs : costMatrix (names.map g.search) = .ok cost) :
    (walkAlong (cost.tour.filterMap ((names.map g.search)[·]?))).length =
      cost.tourCost cost.tour + 1 := by
  have rows : cost.length = (names.map g.search).length := length_costMatrix costs
  have inside : ∀ j ∈ cost.tour, j < (names.map g.search).length := fun j hj =>
    rows ▸ List.mem_range.1 (cost.perm_tour.mem_iff.1 hj)
  cases along : cost.tour with
  | nil =>
    have stops := cost.perm_tour.length_eq
    rw [along, List.length_range, rows, List.length_map] at stops
    exact absurd (List.length_eq_zero_iff.1 stops.symm) ne
  | cons i tour =>
    exact length_walkAlong wf (List.forall_mem_map.2 fun _ _ => rfl) costs (along ▸ inside)

/-- The walk between two tables is the route from the first to the second. -/
theorem isRoute_of_pair (wf : g.WellFormed) {a b : String}
    (costs : costMatrix ([a, b].map g.search) = .ok cost) (symmetric : cost.Symmetric) :
    g.IsRoute a b (walkAlong (cost.tour.filterMap (([a, b].map g.search)[·]?))) := by
  have route : g.IsRoute a b ((g.search a).route b) :=
    isRoute_of_hops? wf (hops?_eq_between costs (i := 0) (j := 1) rfl rfl)
  have along : walkAlong (cost.tour.filterMap (([a, b].map g.search)[·]?)) = (g.search a).route b := by
    rw [symmetric.tour_of_two (length_costMatrix costs)]
    exact List.dropLast_append_getLast? b route.last
  rwa [along]

end

/-- A path of two tables or more in a graph built from a catalog is economical. -/
theorem resolve_economical {ls : List Link} (built : build ls = .ok g)
    (resolved : g.resolve required = .ok p) (two : 2 ≤ required.eraseDups.length) :
    ∃ cost walk, costMatrix (required.eraseDups.map g.search) = .ok cost ∧
      walk = walkAlong (cost.tour.filterMap ((required.eraseDups.map g.search)[·]?)) ∧
      g.Economical required p cost walk := by
  have wf := wellFormed_of_build built
  have known := known_of_resolve wf resolved two
  obtain ⟨cost, costs, path_eq⟩ := exists_costMatrix_of_resolve resolved two
  refine ⟨cost, _, costs, rfl, ?_⟩
  have ne : required.eraseDups ≠ [] := List.ne_nil_of_length_pos (by omega)
  have metric := isMetric_of_costMatrix wf (nodup_eraseDups required) known costs
  have symmetric := metric.symmetric
  have settled := symmetric.settles_twoOpt cost.nearestNeighbourTour
  obtain ⟨start, best⟩ := cost.exists_isBestGreedyTour (by rw [metric.rows]; omega)
  have perm := metric.rows ▸ cost.perm_tour
  have walk_length := length_walk_of_tour wf ne costs
  have path_length : p.length ≤ cost.tourCost cost.tour := by
    rw [path_eq, ← length_steps_tour wf costs]
    exact JoinPath.length_ofWalk_le _
  refine ⟨?distances, ?one_greedy, ⟨start, best⟩, perm, ?shorter, ?shortest, walk_length, ?linked, path_eq,
    path_length, ?pair⟩
  case distances =>
    intro i j a b at_i at_j
    obtain ⟨hi, rfl⟩ := List.getElem?_eq_some_iff.1 at_i
    obtain ⟨hj, rfl⟩ := List.getElem?_eq_some_iff.1 at_j
    exact distance_of_costMatrix wf known costs hi hj
  case one_greedy =>
    intro start lt
    exact ⟨_, cost.isGreedyTour_greedyTour (metric.rows.symm ▸ lt),
      fun tour greedy => (CostMatrix.isGreedyTour_iff.1 greedy).2⟩
  case shorter =>
    exact fun start tour greedy => (settled.tourCost_le symmetric).trans (best.least start tour greedy)
  case shortest =>
    intro few order order_perm
    have optimum := symmetric.not_improvable_iff.1 settled.not_improvable
    refine symmetric.tourCost_le_of_short optimum ?_ (order_perm.trans perm.symm)
    exact (perm.length_eq.trans List.length_range).le.trans few
  case linked =>
    obtain ⟨stops, -, isWalk⟩ := exists_isWalk_of_costMatrix wf ne costs
    exact isWalk.linked
  case pair =>
    intro a b names
    rw [names] at costs path_eq walk_length
    have route := isRoute_of_pair wf costs symmetric
    have edges := path_eq ▸ JoinPath.edges_ofWalk_of_nodup route.nodup
    refine ⟨_, route, edges, ?_⟩
    have hops : p.length = cost.between 0 1 := by
      rw [JoinPath.length, edges, length_steps, walk_length,
        symmetric.tour_of_two (length_costMatrix costs)]
      rfl
    rw [hops]
    exact distance_of_costMatrix wf (names ▸ known) costs (i := 0) (j := 1) (by simp) (by simp)

/-- From the term to the campus and on to the country are five links, and facts are passed twice. -/
theorem school_path_economical : ∃ g cost, build schoolLinks = .ok g ∧
    g.resolve ["term", "country", "campus"] =
      .ok ⟨[⟨"fact", "term"⟩, ⟨"campus", "fact"⟩, ⟨"fact", "student"⟩, ⟨"country", "student"⟩]⟩ ∧
    2 ≤ ["term", "country", "campus"].eraseDups.length ∧ cost.tour = [0, 2, 1] ∧
    g.Economical ["term", "country", "campus"]
      ⟨[⟨"fact", "term"⟩, ⟨"campus", "fact"⟩, ⟨"fact", "student"⟩, ⟨"country", "student"⟩]⟩ cost
      ["term", "fact", "campus", "fact", "student", "country"] := by
  have found : (build schoolLinks >>= fun g =>
      (g.resolve ["term", "country", "campus"]) >>= fun p =>
        (costMatrix (["term", "country", "campus"].eraseDups.map g.search)).map fun cost =>
          (p, cost.tour, walkAlong (cost.tour.filterMap
            ((["term", "country", "campus"].eraseDups.map g.search)[·]?)))) =
      .ok (⟨[⟨"fact", "term"⟩, ⟨"campus", "fact"⟩, ⟨"fact", "student"⟩, ⟨"country", "student"⟩]⟩,
        [0, 2, 1], ["term", "fact", "campus", "fact", "student", "country"]) := by
    decide +kernel
  obtain ⟨g, built, found⟩ := bind_eq_ok_iff.1 found
  obtain ⟨p, resolved, found⟩ := bind_eq_ok_iff.1 found
  obtain ⟨cost, costs, found⟩ := map_eq_ok_iff.1 found
  simp only [Prod.mk.injEq] at found
  obtain ⟨rfl, tour, walked⟩ := found
  have two : 2 ≤ ["term", "country", "campus"].eraseDups.length := by decide
  obtain ⟨cost', walk, costs', rfl, economical⟩ := resolve_economical built resolved two
  obtain rfl := Except.ok.inj (costs.symm.trans costs')
  exact ⟨g, cost, built, resolved, two, tour, walked ▸ economical⟩

end JoinGraph

end Joinery
