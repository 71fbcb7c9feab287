import Joinery.Graph.Path

/-!
# Join plans

Each edge of a join path with the link that joins its tables, seen from the left one.
-/

namespace Joinery

/-- An edge and the condition under which its tables are joined. -/
structure JoinStep where
  edge : JoinEdge
  condition : Link
  deriving DecidableEq

namespace JoinGraph

/-- The condition that joins one table to another. -/
def condition (g : JoinGraph) (left right : String) : Except GraphError Link :=
  match g.link? left right with
  | some l => .ok l
  | none => .error (.notLinked left right)

/-- The condition of an edge, in the direction in which the edge is written. -/
def planStep (g : JoinGraph) (e : JoinEdge) : Except GraphError JoinStep :=
  (g.condition e.left e.right).map fun condition => ⟨e, condition⟩

/-- Every edge of a path with its condition. -/
def plan (g : JoinGraph) (p : JoinPath) : Except GraphError (List JoinStep) :=
  p.edges.mapM g.planStep

end JoinGraph

end Joinery
