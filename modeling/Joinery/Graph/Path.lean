import Joinery.Graph.Search
import Joinery.Graph.Tour

/-!
# Join paths

`JoinGraph.resolve` finds the pairs of tables that have to be joined so that all required tables come
together. It visits the required tables on a short tour, walks from one to the next along a shortest
way, and keeps each pair of neighbouring tables once.
-/

namespace Joinery

/-- Two tables to join. The direction of a join carries no meaning. -/
structure JoinEdge where
  left : String
  right : String
  deriving DecidableEq

namespace JoinEdge

/-- The edge between two tables, its ends in the order of their names. -/
def ofTables (a b : String) : JoinEdge :=
  if a ≤ b then ⟨a, b⟩ else ⟨b, a⟩

/-- The edge joins the two tables, in either order. -/
def connects (e : JoinEdge) (a b : String) : Bool :=
  (e.left = a && e.right = b) || (e.left = b && e.right = a)

def touches (e : JoinEdge) (table : String) : Bool :=
  e.left = table || e.right = table

def text (e : JoinEdge) : String :=
  e.left ++ " <-> " ++ e.right

end JoinEdge

/-- The joins that connect some tables, in order. -/
structure JoinPath where
  edges : List JoinEdge := []
  deriving DecidableEq

namespace JoinPath

def length (p : JoinPath) : Nat :=
  p.edges.length

def isEmpty (p : JoinPath) : Bool :=
  p.edges.isEmpty

/-- The tables of the path in first-seen order. -/
def tables (p : JoinPath) : List String :=
  (p.edges.flatMap fun e => [e.left, e.right]).eraseDups

def hasTable (p : JoinPath) (table : String) : Bool :=
  p.edges.any (·.touches table)

def hasPair (p : JoinPath) (a b : String) : Bool :=
  p.edges.any (·.connects a b)

/-- The edges between neighbours of a walk. -/
def steps : List String → List JoinEdge
  | a :: b :: rest => .ofTables a b :: steps (b :: rest)
  | _ => []

/-- The path of a walk: each edge once, where it first comes up. -/
def ofWalk (walk : List String) : JoinPath where
  edges := (steps walk).eraseDups

end JoinPath

/-- Goes from each stop to the next along a shortest way. -/
def walkAlong : List Search → List String
  | [] => []
  | [r] => [r.source]
  | r :: next :: rest => (r.route next.source).dropLast ++ walkAlong (next :: rest)

/-- The distances between the sources of some searches, or the first two of them that are not
connected. -/
def costMatrix (searches : List Search) : Except GraphError CostMatrix :=
  searches.mapM fun r => searches.mapM fun s =>
    match r.hops? s.source with
    | some hops => .ok hops
    | none => .error (.disconnected r.source s.source)

namespace JoinGraph

/-- The joins that bring the required tables together. Fewer than two different tables need none,
and then the graph need not know them. -/
def resolve (g : JoinGraph) (required : List String) : Except GraphError JoinPath :=
  let names := required.eraseDups
  if names.length < 2 then .ok {}
  else
    match names.find? (!g.contains ·) with
    | some table => .error (.unknownTable table)
    | none => do
      let searches := names.map g.search
      let cost ← costMatrix searches
      return .ofWalk (walkAlong (cost.tour.filterMap (searches[·]?)))

end JoinGraph

end Joinery
