import Joinery.Proofs.Graph.Metric

/-!
# Tours settle in a local optimum

A tour is cut into three parts to turn the middle one around. Where distances are symmetric, that part
costs the same in both directions, so only the steps into and out of it matter, and `improves` tells
exactly which turns make a tour shorter (`improves_iff`). A sweep therefore finds nothing to turn or
leaves a cheaper tour (`sweep_cases`), so sweeps come to an end (`Settles`), and at the end no turn makes
the tour shorter. `two_opt_settles` says this of all symmetric distances, and that those between tables
are a metric.
-/

namespace Joinery

namespace CostMatrix

variable {cost : CostMatrix}

/-! ## Costs of parts -/

theorem tourCost_append (front back : List Nat) : cost.tourCost (front ++ back) =
    cost.tourCost front + cost.step front.getLast? back.head? + cost.tourCost back := by
  induction front with
  | nil => simp [tourCost, step]
  | cons i front ih =>
    cases front with
    | nil => cases back <;> simp [tourCost, step]
    | cons j front =>
      rw [List.cons_append, List.cons_append, tourCost, tourCost, ← List.cons_append, ih,
        List.getLast?_cons_cons]
      omega

theorem Symmetric.step_comm (symmetric : cost.Symmetric) (a b : Option Nat) :
    cost.step a b = cost.step b a := by
  cases a <;> cases b <;> first | rfl | exact symmetric _ _

theorem Symmetric.tourCost_reverse (symmetric : cost.Symmetric) (tour : List Nat) :
    cost.tourCost tour.reverse = cost.tourCost tour := by
  induction tour with
  | nil => rfl
  | cons i tour ih =>
    have first : cost.tourCost (i :: tour) = cost.step (some i) tour.head? + cost.tourCost tour := by
      cases tour <;> simp [tourCost, step]
    rw [List.reverse_cons, tourCost_append, ih, first, List.getLast?_reverse, symmetric.step_comm]
    simp [tourCost, Nat.add_comm]

/-! ## Turning a part around -/

/-- A tour in three parts, the places at which they meet, and the tour with the middle part turned. -/
structure Cut (tour : List Nat) (i k : Nat) (front part back : List Nat) : Prop where
  tour_eq : tour = front ++ part ++ back
  turned : turnAround tour i k = front ++ part.reverse ++ back
  ne_nil : part ≠ []
  before : before? tour i = front.getLast?
  first : tour[i]? = part.head?
  last : tour[k]? = part.getLast?
  behind : tour[k + 1]? = back.head?

theorem exists_cut {tour : List Nat} {i k : Nat} (le : i ≤ k) (lt : k < tour.length) :
    ∃ front part back, Cut tour i k front part back := by
  have short : (tour.take (k + 1)).length = k + 1 := List.length_take_of_le lt
  have front_eq : (tour.take (k + 1)).take i = tour.take i := by
    rw [List.take_take, Nat.min_eq_left (Nat.le_succ_of_le le)]
  refine ⟨tour.take i, (tour.take (k + 1)).drop i, tour.drop (k + 1), ?_, rfl, ?_, ?_, ?_, ?_, ?_⟩
  · rw [← front_eq, List.take_append_drop, List.take_append_drop]
  · apply List.ne_nil_of_length_pos
    rw [List.length_drop, short]
    omega
  · unfold before?
    rw [List.getLast?_take]
    split_ifs with start
    · rfl
    · rw [List.getElem?_eq_getElem (by omega), Option.some_or]
  · rw [List.head?_drop, List.getElem?_take_of_lt (Nat.lt_succ_of_le le)]
  · rw [List.getLast?_drop, short, if_neg (by omega), List.getLast?_eq_getElem?, short,
      List.getElem?_take_of_lt (by omega)]
    rfl
  · rw [List.head?_drop]

/-- Turning a part around exchanges the steps at its ends. -/
theorem Symmetric.tourCost_turnAround (symmetric : cost.Symmetric) {tour : List Nat} {i k : Nat}
    (le : i ≤ k) (lt : k < tour.length) :
    cost.tourCost (turnAround tour i k) +
        (cost.step (before? tour i) tour[i]? + cost.step tour[k]? tour[k + 1]?) =
      cost.tourCost tour +
        (cost.step (before? tour i) tour[k]? + cost.step tour[i]? tour[k + 1]?) := by
  obtain ⟨front, part, back, cut⟩ := exists_cut le lt
  have turned_ne : part.reverse ≠ [] := mt List.reverse_eq_nil_iff.1 cut.ne_nil
  have tour_cost : cost.tourCost tour = cost.tourCost front + cost.step front.getLast? part.head? +
      cost.tourCost part + cost.step part.getLast? back.head? + cost.tourCost back := by
    rw [cut.tour_eq, tourCost_append, tourCost_append, List.getLast?_append_of_ne_nil _ cut.ne_nil]
  have turned_cost : cost.tourCost (turnAround tour i k) =
      cost.tourCost front + cost.step front.getLast? part.getLast? + cost.tourCost part +
        cost.step part.head? back.head? + cost.tourCost back := by
    rw [cut.turned, tourCost_append, tourCost_append, List.getLast?_append_of_ne_nil _ turned_ne,
      symmetric.tourCost_reverse, List.head?_reverse, List.getLast?_reverse]
  rw [tour_cost, turned_cost, cut.before, cut.first, cut.last, cut.behind]
  omega

/-- The steps at the ends of a part tell whether turning it around makes the tour shorter. -/
theorem Symmetric.improves_iff (symmetric : cost.Symmetric) {tour : List Nat} {i k : Nat}
    (le : i ≤ k) (lt : k < tour.length) :
    cost.improves tour i k = true ↔ cost.tourCost (turnAround tour i k) < cost.tourCost tour := by
  have exchange := symmetric.tourCost_turnAround le lt
  rw [improves, decide_eq_true_iff]
  omega

/-! ## Sweeps -/

theorem mem_parts_iff {size i k : Nat} : (i, k) ∈ parts size ↔ i < k ∧ k < size := by
  simp only [parts, List.mem_flatMap, List.mem_range, List.mem_map, Prod.mk.injEq]
  constructor
  · rintro ⟨i, hi, n, hn, rfl, rfl⟩
    omega
  · rintro ⟨lt, inside⟩
    exact ⟨i, by omega, k - (i + 1), by omega, rfl, by omega⟩

/-- Some part of a tour can be turned around to make it shorter. -/
def Improvable (cost : CostMatrix) (tour : List Nat) : Prop :=
  ∃ part ∈ parts tour.length, cost.improves tour part.1 part.2 = true

/-- No turn makes the tour shorter. -/
def IsLocalOptimum (cost : CostMatrix) (tour : List Nat) : Prop :=
  ∀ i k, i < k → k < tour.length → cost.tourCost tour ≤ cost.tourCost (turnAround tour i k)

theorem Symmetric.not_improvable_iff (symmetric : cost.Symmetric) {tour : List Nat} :
    ¬ cost.Improvable tour ↔ cost.IsLocalOptimum tour := by
  simp only [Improvable, Prod.exists, mem_parts_iff, not_exists, not_and, and_imp]
  refine forall₂_congr fun i k => forall₂_congr fun lt inside => ?_
  rw [symmetric.improves_iff (Nat.le_of_lt lt) inside, Nat.not_lt]

/-- Parts that are tried in turn leave the tour as it is if none of them helps, and otherwise make it
cheaper. -/
theorem Symmetric.foldl_tryTurn_cases (symmetric : cost.Symmetric) {ps : List (Nat × Nat)}
    {tour : List Nat} (inside : ∀ p ∈ ps, p.1 < p.2 ∧ p.2 < tour.length) :
    (∀ p ∈ ps, cost.improves tour p.1 p.2 = false) ∧ ps.foldl cost.tryTurn tour = tour ∨
      (∃ p ∈ ps, cost.improves tour p.1 p.2 = true) ∧
        cost.tourCost (ps.foldl cost.tryTurn tour) < cost.tourCost tour := by
  induction ps generalizing tour with
  | nil => exact .inl ⟨nofun, rfl⟩
  | cons p ps ih =>
    obtain ⟨own, others⟩ := List.forall_mem_cons.1 inside
    rw [List.foldl_cons]
    cases helps : cost.improves tour p.1 p.2 with
    | true =>
      have shorter := (symmetric.improves_iff (Nat.le_of_lt own.1) own.2).1 helps
      have turned : cost.tryTurn tour p = turnAround tour p.1 p.2 := if_pos helps
      have still_inside : ∀ q ∈ ps, q.1 < q.2 ∧ q.2 < (turnAround tour p.1 p.2).length := by
        rw [(perm_turnAround (by omega) tour).length_eq]
        exact others
      rw [turned]
      -- The turn has made the tour cheaper, and the parts behind it cannot make it dearer again.
      refine .inr ⟨⟨p, by simp, helps⟩, ?_⟩
      rcases ih still_inside with ⟨-, kept⟩ | ⟨-, cheaper⟩
      · rwa [kept]
      · exact cheaper.trans shorter
    | false =>
      have kept : cost.tryTurn tour p = tour := if_neg (by simp [helps])
      rw [kept]
      rcases ih others with ⟨none_helps, same⟩ | ⟨⟨q, hq, later⟩, cheaper⟩
      · exact .inl ⟨List.forall_mem_cons.2 ⟨helps, none_helps⟩, same⟩
      · exact .inr ⟨⟨q, List.mem_cons_of_mem p hq, later⟩, cheaper⟩

/-- A sweep turns nothing around or makes the tour cheaper. -/
theorem Symmetric.sweep_cases (symmetric : cost.Symmetric) (tour : List Nat) :
    ¬ cost.Improvable tour ∧ cost.sweep tour = tour ∨
      cost.Improvable tour ∧ cost.tourCost (cost.sweep tour) < cost.tourCost tour := by
  have inside : ∀ p ∈ parts tour.length, p.1 < p.2 ∧ p.2 < tour.length := fun p => mem_parts_iff.1
  rcases symmetric.foldl_tryTurn_cases inside with ⟨none_helps, same⟩ | ⟨some_helps, cheaper⟩
  · refine .inl ⟨?_, same⟩
    rintro ⟨p, hp, helps⟩
    rw [none_helps p hp] at helps
    cases helps
  · exact .inr ⟨some_helps, cheaper⟩

/-! ## Sweeps until nothing helps -/

/-- Sweeps over a tour, as many as it takes until one finds nothing to turn around, end with a tour. -/
inductive Settles (cost : CostMatrix) : (tour result : List Nat) → Prop
  | done {tour : List Nat} (quiet : ¬ cost.Improvable tour) : Settles cost tour tour
  | again {tour result : List Nat} (helps : cost.Improvable tour)
      (rest : Settles cost (cost.sweep tour) result) : Settles cost tour result

namespace Settles

variable {tour result result' : List Nat}

theorem unique (h : cost.Settles tour result) (h' : cost.Settles tour result') : result = result' := by
  induction h with
  | done quiet =>
    cases h' with
    | done => rfl
    | again helps => exact absurd helps quiet
  | again helps _ ih =>
    cases h' with
    | done quiet => exact absurd helps quiet
    | again _ rest => exact ih rest

theorem perm (h : cost.Settles tour result) : result.Perm tour := by
  induction h with
  | done => exact .refl _
  | again _ _ ih => exact ih.trans (cost.perm_sweep _)

theorem not_improvable (h : cost.Settles tour result) : ¬ cost.Improvable result := by
  induction h with
  | done quiet => exact quiet
  | again _ _ ih => exact ih

theorem tourCost_le (symmetric : cost.Symmetric) (h : cost.Settles tour result) :
    cost.tourCost result ≤ cost.tourCost tour := by
  induction h with
  | done => exact Nat.le_refl _
  | @again tour _ helps _ ih =>
    rcases symmetric.sweep_cases tour with ⟨quiet, -⟩ | ⟨-, cheaper⟩
    · exact absurd helps quiet
    · exact ih.trans cheaper.le

end Settles

/-- A sweep that helps saves one link at least, so there are no more of them than a tour has links. -/
theorem Symmetric.settles_sweeps (symmetric : cost.Symmetric) {rounds : Nat} {tour : List Nat}
    (enough : cost.tourCost tour < rounds) : cost.Settles tour (cost.sweeps rounds tour) := by
  induction rounds generalizing tour with
  | zero => exact absurd enough (Nat.not_lt_zero _)
  | succ rounds ih =>
    rw [sweeps]
    rcases symmetric.sweep_cases tour with ⟨quiet, same⟩ | ⟨helps, cheaper⟩
    · rw [if_pos same]
      exact .done quiet
    · have moved : cost.sweep tour ≠ tour := fun same => absurd (same ▸ cheaper) (Nat.lt_irrefl _)
      rw [if_neg moved]
      -- The next tour costs less, so one round less is enough for it.
      exact .again helps (ih (by omega))

theorem Symmetric.settles_twoOpt (symmetric : cost.Symmetric) (tour : List Nat) :
    cost.Settles tour (cost.twoOpt tour) :=
  symmetric.settles_sweeps (Nat.lt_succ_self _)

end CostMatrix

open CostMatrix JoinGraph

/-- The distances between tables that reach each other are a metric, and where distances are symmetric,
sweeps over a tour come to an end at a permutation of it that is no dearer and that no turn makes
cheaper. -/
theorem two_opt_settles :
    (∀ ls g, build ls = .ok g → ∀ stops : List String, stops.Nodup → stops ⊆ g.tables →
      (∀ a ∈ stops, ∀ b ∈ stops, g.Reaches a b) →
        ∃ cost, costMatrix (stops.map g.search) = .ok cost ∧ cost.IsMetric stops.length) ∧
    ∀ cost : CostMatrix, cost.Symmetric → ∀ tour : List Nat,
      (∀ result, cost.Settles tour result ↔ result = cost.twoOpt tour) ∧
        (cost.twoOpt tour).Perm tour ∧
        cost.tourCost (cost.twoOpt tour) ≤ cost.tourCost tour ∧
        cost.IsLocalOptimum (cost.twoOpt tour) := by
  refine ⟨?_, ?_⟩
  · intro ls g built stops nodup known connected
    exact exists_isMetric (wellFormed_of_build built) nodup known connected
  · intro cost symmetric tour
    have settles := symmetric.settles_twoOpt tour
    refine ⟨fun result => ⟨fun other => other.unique settles, fun same => same ▸ settles⟩, settles.perm,
      settles.tourCost_le symmetric, symmetric.not_improvable_iff.1 settles.not_improvable⟩

/-- Between a term, a country and a campus, where the country is best visited first or last. -/
theorem school_tour_settles : ∃ g cost, build schoolLinks = .ok g ∧
    costMatrix (["term", "country", "campus"].map g.search) = .ok cost ∧ cost.IsMetric 3 ∧
    cost.twoOpt [0, 1, 2] = [1, 0, 2] ∧ cost.Settles [0, 1, 2] [1, 0, 2] ∧
    cost.IsLocalOptimum [1, 0, 2] := by
  have found : (build schoolLinks >>= fun g =>
      (costMatrix (["term", "country", "campus"].map g.search)).map fun cost => (g.tables, cost)) =
        .ok (["fact", "term", "student", "country", "campus"], [[0, 3, 2], [3, 0, 3], [2, 3, 0]]) := by
    decide +kernel
  obtain ⟨g, built, found⟩ := bind_eq_ok_iff.1 found
  obtain ⟨cost, costs, same⟩ := map_eq_ok_iff.1 found
  obtain ⟨tables, rfl⟩ := Prod.mk.inj same
  have known : ["term", "country", "campus"] ⊆ g.tables := by
    rw [tables]
    decide
  have connected : ∀ a ∈ ["term", "country", "campus"], ∀ b ∈ ["term", "country", "campus"],
      g.Reaches a b := by
    intro a ha b hb
    rw [← exists_hops_iff (wellFormed_of_build built) (known ha)]
    exact exists_hops_of_costMatrix costs (List.mem_map_of_mem ha) (List.mem_map_of_mem hb)
  obtain ⟨metric, settles⟩ := two_opt_settles
  obtain ⟨cost, costs', isMetric⟩ := metric _ _ built _ (by decide) known connected
  obtain rfl := Except.ok.inj (costs.symm.trans costs')
  obtain ⟨settles, -, -, optimum⟩ := settles _ isMetric.symmetric [0, 1, 2]
  have result : CostMatrix.twoOpt [[0, 3, 2], [3, 0, 3], [2, 3, 0]] [0, 1, 2] = [1, 0, 2] := by decide
  rw [result] at optimum
  exact ⟨g, _, built, costs, isMetric, result, (settles _).2 result.symm, optimum⟩

end Joinery
