import Joinery.Graph.Basic

/-!
# Searches

`JoinGraph.search` visits the tables that can be reached from one table, nearest first, and keeps for
each of them the number of links on the way and the table it was reached from. `Search.route` reads a
shortest way off these visits.
-/

namespace Joinery

/-- A table, its distance in links, and the table before it on the way. -/
structure Visit where
  table : String
  hops : Nat
  before : Option String
  deriving DecidableEq

/-- What a search from a table found. The visits stand latest first, so the table before one stands
after it in the list. -/
structure Search where
  source : String
  visits : List Visit
  deriving DecidableEq

namespace JoinGraph

/-- The first visits to the neighbours of a table that were neither visited nor are waiting. -/
def nextVisits (g : JoinGraph) (v : Visit) (known : List Visit) : List Visit :=
  ((g.neighbors v.table).filter fun t => !known.any (·.table = t)).map
    fun t => ⟨t, v.hops + 1, some v.table⟩

/-- Visits waiting tables in order and lets their unknown neighbours wait behind them; at most
`steps` tables are visited. -/
def visitAll (g : JoinGraph) : (steps : Nat) → (waiting done : List Visit) → List Visit
  | 0, _, done => done
  | _ + 1, [], done => done
  | steps + 1, v :: waiting, done =>
    g.visitAll steps (waiting ++ g.nextVisits v (v :: waiting ++ done)) (v :: done)

/-- Everything that can be reached from a table of the graph. -/
def search (g : JoinGraph) (source : String) : Search where
  source := source
  visits := g.visitAll g.tableCount [⟨source, 0, none⟩] []

end JoinGraph

namespace Search

/-- The least number of links to a table, if it can be reached. -/
def hops? (r : Search) (target : String) : Option Nat :=
  (r.visits.find? (·.table = target)).map (·.hops)

/-- The way to a table along the visits, last table first. -/
def wayBack : List Visit → String → List String
  | [], target => [target]
  | v :: earlier, target =>
    if v.table = target then
      match v.before with
      | none => [target]
      | some table => target :: wayBack earlier table
    else wayBack earlier target

/-- The tables on a shortest way, both ends included. -/
def route (r : Search) (target : String) : List String :=
  (wayBack r.visits target).reverse

end Search

end Joinery
