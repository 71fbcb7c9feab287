import Mathlib.Data.List.Induction
import Mathlib.Data.List.Perm.Basic
import Joinery.Graph.Tour

/-!
# Tours visit every stop

A greedy tour goes through all stops that are left, and turning a part of a tour around keeps its
stops, so `CostMatrix.tour` is a permutation of all stops (`perm_tour`). The nearest stop and the cheapest
tour are both the first of the least elements of a list (`isFirstLeast_foldl`).
-/

namespace Joinery

/-! ## The first of the least elements -/

section FirstLeast

variable {α : Type} {f : α → Nat} {l : List α} {a : α}

/-- The values before an element of a list are greater than its value, and those behind it not less. -/
def IsFirstLeast (f : α → Nat) (l : List α) (a : α) : Prop :=
  ∃ before after, l = before ++ a :: after ∧ (∀ b ∈ before, f a < f b) ∧ ∀ b ∈ after, f a ≤ f b

theorem IsFirstLeast.mem (h : IsFirstLeast f l a) : a ∈ l := by
  obtain ⟨before, after, rfl, -, -⟩ := h
  simp

theorem IsFirstLeast.le (h : IsFirstLeast f l a) : ∀ b ∈ l, f a ≤ f b := by
  obtain ⟨before, after, rfl, greater, not_less⟩ := h
  intro b hb
  rcases List.mem_append.1 hb with hb | hb
  · exact Nat.le_of_lt (greater b hb)
  · rcases List.mem_cons.1 hb with rfl | hb
    · exact Nat.le_refl _
    · exact not_less b hb

theorem isFirstLeast_foldl (f : α → Nat) (first : α) (rest : List α) : IsFirstLeast f (first :: rest)
    (rest.foldl (fun best a => if f a < f best then a else best) first) := by
  induction rest using List.reverseRecOn with
  | nil => exact ⟨[], [], rfl, nofun, nofun⟩
  | append_singleton rest a ih =>
    rw [List.foldl_append, List.foldl_cons, List.foldl_nil]
    split_ifs with less
    · exact ⟨first :: rest, [], rfl, fun b hb => Nat.lt_of_lt_of_le less (ih.le b hb), nofun⟩
    · obtain ⟨before, after, eq, greater, not_less⟩ := ih
      refine ⟨before, after ++ [a], ?_, greater, List.forall_mem_append.2 ⟨not_less, ?_⟩⟩
      · rw [← List.cons_append, eq, List.append_assoc, List.cons_append]
      · simpa using less

end FirstLeast

namespace CostMatrix

variable (cost : CostMatrix)

/-! ## Greedy tours -/

theorem isFirstLeast_nearest (current first : Nat) (rest : List Nat) :
    IsFirstLeast (cost.between current) (first :: rest) (cost.nearest current first rest) :=
  isFirstLeast_foldl _ first rest

theorem perm_greedyFrom {steps : Nat} (current : Nat) {left : List Nat}
    (enough : left.length ≤ steps) :
    (cost.greedyFrom steps current left).Perm (current :: left) := by
  induction steps generalizing current left with
  | zero =>
    obtain rfl := List.length_eq_zero_iff.1 (Nat.le_zero.1 enough)
    exact .refl _
  | succ steps ih =>
    cases left with
    | nil => exact .refl _
    | cons j rest =>
      have mem := (cost.isFirstLeast_nearest current j rest).mem
      have shorter : ((j :: rest).erase (cost.nearest current j rest)).length ≤ steps := by
        rw [List.length_erase_of_mem mem]
        exact Nat.sub_le_of_le_add enough
      rw [greedyFrom]
      exact ((ih _ shorter).trans (List.perm_cons_erase mem).symm).cons current

theorem perm_greedyTour {start : Nat} (h : start < cost.length) :
    (cost.greedyTour start).Perm (List.range cost.length) := by
  have mem : start ∈ List.range cost.length := List.mem_range.2 h
  have enough : ((List.range cost.length).erase start).length ≤ cost.length := by
    rw [List.length_erase_of_mem mem, List.length_range]
    exact Nat.sub_le _ _
  exact (cost.perm_greedyFrom start enough).trans (List.perm_cons_erase mem).symm

theorem isFirstLeast_cheapest (first : List Nat) (rest : List (List Nat)) :
    IsFirstLeast cost.tourCost (first :: rest) (cost.cheapest first rest) :=
  isFirstLeast_foldl _ first rest

theorem perm_nearestNeighbourTour :
    cost.nearestNeighbourTour.Perm (List.range cost.length) := by
  unfold nearestNeighbourTour
  split
  next none_left =>
    rw [List.map_eq_nil_iff.1 none_left]
  next first rest tours =>
    have mem := (cost.isFirstLeast_cheapest first rest).mem
    rw [← tours] at mem
    obtain ⟨start, h, eq⟩ := List.mem_map.1 mem
    exact eq ▸ cost.perm_greedyTour (List.mem_range.1 h)

/-! ## Turning parts around -/

theorem perm_turnAround {i k : Nat} (h : i ≤ k + 1) (tour : List Nat) :
    (turnAround tour i k).Perm tour := by
  have front : (tour.take (k + 1)).take i = tour.take i := by
    rw [List.take_take, Nat.min_eq_left h]
  have turned : (tour.take i ++ ((tour.take (k + 1)).drop i).reverse).Perm (tour.take (k + 1)) := by
    refine ((List.reverse_perm _).append_left _).trans ?_
    rw [← front, List.take_append_drop]
  refine (turned.append_right _).trans ?_
  rw [List.take_append_drop]

theorem perm_tryTurn {part : Nat × Nat} (h : part.1 ≤ part.2 + 1) (tour : List Nat) :
    (cost.tryTurn tour part).Perm tour := by
  unfold tryTurn
  split_ifs
  · exact perm_turnAround h tour
  · exact .refl _

theorem fst_lt_snd_of_mem_parts {size : Nat} {part : Nat × Nat} (h : part ∈ parts size) :
    part.1 < part.2 := by
  obtain ⟨i, -, h⟩ := List.mem_flatMap.1 h
  obtain ⟨n, -, rfl⟩ := List.mem_map.1 h
  dsimp only
  omega

theorem perm_sweep (tour : List Nat) : (cost.sweep tour).Perm tour := by
  have along : ∀ (ps : List (Nat × Nat)), (∀ p ∈ ps, p.1 ≤ p.2 + 1) → ∀ t : List Nat,
      (ps.foldl cost.tryTurn t).Perm t := by
    intro ps
    induction ps with
    | nil => exact fun _ t => .refl t
    | cons p ps ih =>
      intro h t
      rw [List.foldl_cons]
      exact (ih (fun q hq => h q (by simp [hq])) _).trans (cost.perm_tryTurn (h p (by simp)) t)
  exact along _ (fun p hp => Nat.le_succ_of_le (Nat.le_of_lt (fst_lt_snd_of_mem_parts hp))) tour

theorem perm_sweeps (rounds : Nat) (tour : List Nat) : (cost.sweeps rounds tour).Perm tour := by
  induction rounds generalizing tour with
  | zero => exact .refl _
  | succ rounds ih =>
    rw [sweeps]
    split_ifs
    · exact .refl _
    · exact (ih _).trans (cost.perm_sweep tour)

/-- A tour visits every stop once. -/
theorem perm_tour : cost.tour.Perm (List.range cost.length) :=
  (cost.perm_sweeps _ _).trans cost.perm_nearestNeighbourTour

end CostMatrix

end Joinery
