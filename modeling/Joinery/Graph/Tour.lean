/-!
# Tours

In which order to visit some stops, given the distances between them. `greedyTour` always goes to
the nearest stop left, `nearestNeighbourTour` is the cheapest of these over all starts, and `twoOpt`
turns parts of a tour around as long as that makes it shorter. Stops are numbered; a tour need not
return to its start.
-/

namespace Joinery

/-- Distances between numbered stops, a row for each stop. -/
abbrev CostMatrix := List (List Nat)

namespace CostMatrix

/-- The distance between two stops. -/
def between (cost : CostMatrix) (i j : Nat) : Nat :=
  ((cost[i]?).bind (·[j]?)).getD 0

/-- The length of a tour. -/
def tourCost (cost : CostMatrix) : List Nat → Nat
  | i :: j :: rest => cost.between i j + tourCost cost (j :: rest)
  | _ => 0

/-- The first stop of a list that is nearest to a given one. -/
def nearest (cost : CostMatrix) (current first : Nat) (rest : List Nat) : Nat :=
  rest.foldl (fun best j => if cost.between current j < cost.between current best then j else best)
    first

/-- Goes from stop to stop, always to the nearest one left, for at most the given number of steps. -/
def greedyFrom (cost : CostMatrix) : (steps : Nat) → (current : Nat) → (left : List Nat) → List Nat
  | 0, current, _ => [current]
  | _ + 1, current, [] => [current]
  | steps + 1, current, j :: rest =>
    let next := cost.nearest current j rest
    current :: cost.greedyFrom steps next ((j :: rest).erase next)

/-- The greedy tour of all stops from one of them. -/
def greedyTour (cost : CostMatrix) (start : Nat) : List Nat :=
  cost.greedyFrom cost.length start ((List.range cost.length).erase start)

/-- The first of the cheapest tours. -/
def cheapest (cost : CostMatrix) (first : List Nat) (rest : List (List Nat)) : List Nat :=
  rest.foldl (fun best tour => if cost.tourCost tour < cost.tourCost best then tour else best) first

/-- The cheapest greedy tour, from the earliest start. -/
def nearestNeighbourTour (cost : CostMatrix) : List Nat :=
  match (List.range cost.length).map cost.greedyTour with
  | [] => []
  | first :: rest => cost.cheapest first rest

/-- The distance between two neighbouring places of a tour; nothing beyond its ends. -/
def step (cost : CostMatrix) (a b : Option Nat) : Nat :=
  match a, b with
  | some i, some j => cost.between i j
  | _, _ => 0

/-- The stop before a place of a tour. -/
def before? (tour : List Nat) (place : Nat) : Option Nat :=
  if place = 0 then none else tour[place - 1]?

/-- Turning the places from `i` to `k` around makes the tour shorter. Only the steps into and out of
that part change where distances are symmetric. -/
def improves (cost : CostMatrix) (tour : List Nat) (i k : Nat) : Bool :=
  cost.step (before? tour i) tour[k]? + cost.step tour[i]? tour[k + 1]? <
    cost.step (before? tour i) tour[i]? + cost.step tour[k]? tour[k + 1]?

/-- The tour with the places from `i` to `k` turned around. -/
def turnAround (tour : List Nat) (i k : Nat) : List Nat :=
  tour.take i ++ ((tour.take (k + 1)).drop i).reverse ++ tour.drop (k + 1)

/-- The tour with one part turned around, if that helps. -/
def tryTurn (cost : CostMatrix) (tour : List Nat) (part : Nat × Nat) : List Nat :=
  if cost.improves tour part.1 part.2 then turnAround tour part.1 part.2 else tour

/-- The first and last places of the parts with at least two stops. -/
def parts (size : Nat) : List (Nat × Nat) :=
  (List.range size).flatMap fun i =>
    (List.range (size - (i + 1))).map fun n => (i, i + 1 + n)

/-- Tries each part once, in order. -/
def sweep (cost : CostMatrix) (tour : List Nat) : List Nat :=
  (parts tour.length).foldl cost.tryTurn tour

/-- Sweeps until nothing changes, at most the given number of times. -/
def sweeps (cost : CostMatrix) : (rounds : Nat) → List Nat → List Nat
  | 0, tour => tour
  | rounds + 1, tour =>
    let next := cost.sweep tour
    if next = tour then tour else cost.sweeps rounds next

/-- Turns parts of the tour around until no turn makes it shorter. Each sweep that changes a tour
saves at least one link, which bounds their number. -/
def twoOpt (cost : CostMatrix) (tour : List Nat) : List Nat :=
  cost.sweeps (cost.tourCost tour + 1) tour

/-- A short tour of all stops. -/
def tour (cost : CostMatrix) : List Nat :=
  cost.twoOpt cost.nearestNeighbourTour

end CostMatrix

end Joinery
