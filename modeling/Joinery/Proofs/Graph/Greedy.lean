import Joinery.Proofs.Graph.Tour

/-!
# Greedy tours

A greedy tour goes on to the stop that it prefers to all others that are left: the nearest one, and of
several the one with the least number. Each stop has exactly one such tour from it (`isGreedyTour_iff`).
The nearest neighbour tour is the cheapest of them, from the earliest start where several are
(`exists_isBestGreedyTour`).
-/

namespace Joinery

namespace CostMatrix

variable {cost : CostMatrix}

/-- A stop is nearer than another one, or it is as near and has no greater number. -/
def Prefers (cost : CostMatrix) (current next other : Nat) : Prop :=
  cost.between current next < cost.between current other ∨
    cost.between current next = cost.between current other ∧ next ≤ other

theorem Prefers.refl (current next : Nat) : cost.Prefers current next next :=
  .inr ⟨rfl, Nat.le_refl next⟩

theorem Prefers.antisymm {current next other : Nat} (h : cost.Prefers current next other)
    (h' : cost.Prefers current other next) : next = other := by
  unfold Prefers at h h'
  omega

/-- A tour of all stops that goes on from each stop to the one that is preferred to all that are left. -/
structure IsGreedyTour (cost : CostMatrix) (start : Nat) (tour : List Nat) : Prop where
  perm : tour.Perm (List.range cost.length)
  starts : tour.head? = some start
  prefers : ∀ front current next back, tour = front ++ current :: next :: back →
    ∀ other < cost.length, other ∉ front ++ [current] → cost.Prefers current next other

/-- A greedy tour that is as cheap as any, and cheaper than those from earlier starts. -/
structure IsBestGreedyTour (cost : CostMatrix) (start : Nat) (tour : List Nat) : Prop where
  greedy : cost.IsGreedyTour start tour
  least : ∀ other tour', cost.IsGreedyTour other tour' → cost.tourCost tour ≤ cost.tourCost tour'
  earliest : ∀ other < start, ∀ tour', cost.IsGreedyTour other tour' →
    cost.tourCost tour < cost.tourCost tour'

/-! ## Steps to the nearest stop -/

/-- The first of the nearest stops of a list in ascending order has the least number. -/
theorem prefers_nearest (current : Nat) {first : Nat} {rest : List Nat}
    (ascending : (first :: rest).Pairwise (· < ·)) :
    ∀ other ∈ first :: rest, cost.Prefers current (cost.nearest current first rest) other := by
  obtain ⟨before, after, eq, farther, not_nearer⟩ := cost.isFirstLeast_nearest current first rest
  rw [eq] at ascending ⊢
  have behind := (List.pairwise_cons.1 (List.pairwise_append.1 ascending).2.1).1
  intro other mem
  rcases List.mem_append.1 mem with mem | mem
  · exact .inl (farther other mem)
  · rcases List.mem_cons.1 mem with rfl | mem
    · exact .refl current _
    · rcases Nat.lt_or_eq_of_le (not_nearer other mem) with nearer | same
      · exact .inl nearer
      · exact .inr ⟨same, Nat.le_of_lt (behind other mem)⟩

theorem head?_greedyFrom (cost : CostMatrix) (steps current : Nat) (left : List Nat) :
    (cost.greedyFrom steps current left).head? = some current := by
  cases steps with
  | zero => rfl
  | succ steps => cases left <;> rfl

/-- Each step goes to the stop that is preferred to those behind it. -/
theorem prefers_greedyFrom {steps current : Nat} {left : List Nat}
    (ascending : left.Pairwise (· < ·)) (enough : left.length ≤ steps) :
    ∀ front here next back, cost.greedyFrom steps current left = front ++ here :: next :: back →
      ∀ other ∈ next :: back, cost.Prefers here next other := by
  induction steps generalizing current left with
  | zero =>
    intro front here next back eq
    have length := congrArg List.length eq
    simp only [greedyFrom, List.length_append, List.length_cons, List.length_nil] at length
    omega
  | succ steps ih =>
    cases left with
    | nil =>
      intro front here next back eq
      have length := congrArg List.length eq
      simp only [greedyFrom, List.length_append, List.length_cons, List.length_nil] at length
      omega
    | cons j rest =>
      have mem := (cost.isFirstLeast_nearest current j rest).mem
      have shorter : ((j :: rest).erase (cost.nearest current j rest)).length ≤ steps := by
        rw [List.length_erase_of_mem mem]
        exact Nat.sub_le_of_le_add enough
      have later := @ih (cost.nearest current j rest) _ (ascending.sublist List.erase_sublist) shorter
      have all := (cost.perm_greedyFrom (cost.nearest current j rest) shorter).trans
        (List.perm_cons_erase mem).symm
      have head := cost.head?_greedyFrom steps (cost.nearest current j rest)
        ((j :: rest).erase (cost.nearest current j rest))
      intro front here next back eq
      rw [greedyFrom] at eq
      cases front with
      | nil =>
        -- The first step: what the rest of the tour visits is what was left.
        obtain ⟨rfl, behind⟩ := List.cons.inj eq
        rw [behind] at all head
        obtain rfl := Option.some.inj head
        exact fun other mem => prefers_nearest _ ascending other (all.mem_iff.1 mem)
      | cons _ front => exact later front here next back (List.cons.inj eq).2

/-! ## One greedy tour from each stop -/

theorem isGreedyTour_greedyTour (cost : CostMatrix) {start : Nat} (h : start < cost.length) :
    cost.IsGreedyTour start (cost.greedyTour start) where
  perm := cost.perm_greedyTour h
  starts := cost.head?_greedyFrom _ _ _
  prefers front current next back eq other lt unvisited := by
    have ascending : ((List.range cost.length).erase start).Pairwise (· < ·) :=
      List.pairwise_lt_range.sublist List.erase_sublist
    have enough : ((List.range cost.length).erase start).length ≤ cost.length := by
      rw [List.length_erase_of_mem (List.mem_range.2 h), List.length_range]
      exact Nat.sub_le _ _
    have mem : other ∈ front ++ [current] ++ next :: back := by
      rw [List.append_assoc, List.singleton_append, ← eq, (cost.perm_greedyTour h).mem_iff]
      exact List.mem_range.2 lt
    exact prefers_greedyFrom ascending enough front current next back eq other
      ((List.mem_append.1 mem).resolve_left unvisited)

/-- Two tours of the same stops from the same start, both with preferred steps, are the same. -/
theorem eq_of_prefers {tour tour' : List Nat} (perm : tour.Perm tour')
    (same_start : tour.head? = tour'.head?)
    (h : ∀ front current next back, tour = front ++ current :: next :: back →
      ∀ other ∈ back, cost.Prefers current next other)
    (h' : ∀ front current next back, tour' = front ++ current :: next :: back →
      ∀ other ∈ back, cost.Prefers current next other) : tour = tour' := by
  induction tour generalizing tour' with
  | nil => exact perm.nil_eq
  | cons current tour ih =>
    obtain ⟨tour', rfl⟩ := List.head?_eq_some_iff.1 same_start.symm
    have perm := perm.cons_inv
    cases tour with
    | nil => rw [perm.nil_eq]
    | cons next back =>
      cases tour' with
      | nil => exact absurd perm.length_eq (by simp)
      | cons next' back' =>
        have later := h [] current next back rfl
        have later' := h' [] current next' back' rfl
        obtain rfl : next = next' := by
          rcases List.mem_cons.1 (perm.mem_iff.2 (List.mem_cons_self (a := next'))) with same | mem
          · exact same.symm
          · rcases List.mem_cons.1 (perm.mem_iff.1 (List.mem_cons_self (a := next))) with same | mem'
            · exact same
            · exact (later _ mem).antisymm (later' _ mem')
        rw [ih perm rfl]
        · exact fun front c n rest eq => h (current :: front) c n rest (congrArg _ eq)
        · exact fun front c n rest eq => h' (current :: front) c n rest (congrArg _ eq)

theorem IsGreedyTour.lt {start : Nat} {tour : List Nat} (h : cost.IsGreedyTour start tour) :
    start < cost.length :=
  List.mem_range.1 (h.perm.mem_iff.1 (List.mem_of_mem_head? h.starts))

/-- What stands behind a step was not visited before it. -/
theorem IsGreedyTour.prefers_behind {start : Nat} {tour : List Nat} (h : cost.IsGreedyTour start tour) :
    ∀ front current next back, tour = front ++ current :: next :: back →
      ∀ other ∈ back, cost.Prefers current next other := by
  intro front current next back eq other mem
  have split : tour = front ++ [current] ++ next :: back := by
    rw [eq, List.append_assoc, List.singleton_append]
  have nodup := h.perm.nodup_iff.2 List.nodup_range
  rw [split] at nodup
  refine h.prefers front current next back eq other ?_ fun visited => ?_
  · exact List.mem_range.1 (h.perm.mem_iff.1 (by rw [eq]; simp [mem]))
  · exact (List.nodup_append.1 nodup).2.2 other visited other (List.mem_cons_of_mem next mem) rfl

/-- There is one greedy tour from each stop. -/
theorem isGreedyTour_iff {start : Nat} {tour : List Nat} :
    cost.IsGreedyTour start tour ↔ start < cost.length ∧ tour = cost.greedyTour start := by
  constructor
  · intro h
    have own := cost.isGreedyTour_greedyTour h.lt
    exact ⟨h.lt, eq_of_prefers (h.perm.trans own.perm.symm) (h.starts.trans own.starts.symm)
      h.prefers_behind own.prefers_behind⟩
  · rintro ⟨lt, rfl⟩
    exact cost.isGreedyTour_greedyTour lt

/-! ## The cheapest greedy tour -/

theorem isFirstLeast_nearestNeighbourTour (some_stop : 0 < cost.length) :
    IsFirstLeast cost.tourCost ((List.range cost.length).map cost.greedyTour)
      cost.nearestNeighbourTour := by
  unfold nearestNeighbourTour
  split
  next none_left =>
    rw [List.map_eq_nil_iff, List.range_eq_nil] at none_left
    exact absurd some_stop (Nat.not_lt.2 (Nat.le_of_eq none_left))
  next tour rest tours =>
    rw [tours]
    exact cost.isFirstLeast_cheapest tour rest

theorem exists_isBestGreedyTour (cost : CostMatrix) (some_stop : 0 < cost.length) :
    ∃ start, cost.IsBestGreedyTour start cost.nearestNeighbourTour := by
  have first := isFirstLeast_nearestNeighbourTour some_stop
  have least := first.le
  obtain ⟨before, after, tours, dearer, -⟩ := first
  have tour_at : ∀ start < cost.length,
      (before ++ cost.nearestNeighbourTour :: after)[start]? = some (cost.greedyTour start) := by
    intro start lt
    rw [← tours, List.getElem?_map, List.getElem?_range lt, Option.map_some]
  have inside : before.length < cost.length := by
    have length := congrArg List.length tours
    rw [List.length_map, List.length_range, List.length_append, List.length_cons] at length
    omega
  have own : cost.nearestNeighbourTour = cost.greedyTour before.length := by
    have found := tour_at before.length inside
    rw [List.getElem?_append_right (Nat.le_refl _), Nat.sub_self] at found
    exact Option.some.inj found
  refine ⟨before.length, isGreedyTour_iff.2 ⟨inside, own⟩, fun other tour greedy => ?_,
    fun other earlier tour greedy => ?_⟩
  · obtain ⟨lt, rfl⟩ := isGreedyTour_iff.1 greedy
    exact least _ (List.mem_map_of_mem (List.mem_range.2 lt))
  · obtain ⟨lt, rfl⟩ := isGreedyTour_iff.1 greedy
    have found := tour_at other lt
    rw [List.getElem?_append_left earlier] at found
    exact dearer _ (List.mem_of_getElem? found)

end CostMatrix

end Joinery
