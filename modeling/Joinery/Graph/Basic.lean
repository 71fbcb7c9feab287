import Joinery.Link

/-!
# Join graphs

The tables of a catalog and, for each of them, its links to other tables. Every link is kept at both
of its tables, at each one seen from that table. Tables stand in the order of their first link, the
links of a table in the order in which its neighbours came up; a later link between the same two
tables takes the place of the earlier one.
-/

namespace Joinery

open Text

/-- What makes a link unusable. -/
inductive LinkFault
  | blankTable
  | sameTable
  | noColumns
  | columnCounts (left right : Nat)
  deriving DecidableEq

def LinkFault.message : LinkFault → String
  | blankTable => "table name is empty"
  | sameTable => "a table cannot link to itself"
  | noColumns => "column list is empty"
  | columnCounts left right => s!"{left} left columns but {right} right columns"

/-- Why a graph cannot be built, or tables cannot be joined in it. -/
inductive GraphError
  | badLink (left right : String) (fault : LinkFault)
  | unknownTable (table : String)
  | disconnected (source target : String)
  | notLinked (left right : String)
  deriving DecidableEq

def GraphError.message : GraphError → String
  | badLink left right fault => s!"Invalid link '{left}' -> '{right}': " ++ fault.message
  | unknownTable table =>
    s!"Cannot join the selected tables: table '{table}' is not in the link catalog"
  | disconnected source target =>
    s!"Cannot join the selected tables: no link path connects '{source}' and '{target}'"
  | notLinked left right => s!"No link between '{left}' and '{right}'"

/-- The first fault of a link, if it has one. -/
def Link.fault? (l : Link) : Option LinkFault :=
  if isBlankText l.leftTable || isBlankText l.rightTable then some .blankTable
  else if l.leftTable = l.rightTable then some .sameTable
  else if l.leftColumns = [] ∨ l.rightColumns = [] then some .noColumns
  else if l.leftColumns.length ≠ l.rightColumns.length then
    some (.columnCounts l.leftColumns.length l.rightColumns.length)
  else none

/-- A table and its links, all of them seen from this table. -/
structure Node where
  table : String
  links : List Link := []
  deriving DecidableEq

/-- The tables of a catalog and their links. -/
structure JoinGraph where
  nodes : List Node := []
  deriving DecidableEq, Inhabited

/-- Puts a link in the place of the one to the same table, or at the end. -/
def setLink (l : Link) : List Link → List Link
  | [] => [l]
  | m :: rest => if m.rightTable = l.rightTable then l :: rest else m :: setLink l rest

namespace JoinGraph

def empty : JoinGraph := {}

/-- The names of the tables in first-seen order. -/
def tables (g : JoinGraph) : List String :=
  g.nodes.map (·.table)

/-- The place of a table among the tables, counted from zero. -/
def place? (g : JoinGraph) (table : String) : Option Nat :=
  g.tables.idxOf? table

/-- The table at a place. -/
def tableAt? (g : JoinGraph) (place : Nat) : Option String :=
  g.tables[place]?

def contains (g : JoinGraph) (table : String) : Bool :=
  g.nodes.any (·.table = table)

/-- The links of a table; an unknown table has none. -/
def links (g : JoinGraph) (table : String) : List Link :=
  ((g.nodes.find? (·.table = table)).map (·.links)).getD []

/-- The tables that a table is linked to. -/
def neighbors (g : JoinGraph) (table : String) : List String :=
  (g.links table).map (·.rightTable)

/-- The link between two tables, seen from the first one. -/
def link? (g : JoinGraph) (left right : String) : Option Link :=
  (g.links left).find? (·.rightTable = right)

def tableCount (g : JoinGraph) : Nat :=
  g.nodes.length

/-- The number of directed links, two for each pair of linked tables. -/
def edgeCount (g : JoinGraph) : Nat :=
  (g.nodes.flatMap (·.links)).length

/-- The graph with a table in it. -/
def addTable (g : JoinGraph) (table : String) : JoinGraph :=
  if g.contains table then g else { nodes := g.nodes ++ [{ table }] }

/-- The graph with a link kept at its left table. -/
def keepLink (g : JoinGraph) (l : Link) : JoinGraph where
  nodes := g.nodes.map fun n =>
    if n.table = l.leftTable then { n with links := setLink l n.links } else n

/-- The graph with a link between two tables, or the fault that keeps the link out. -/
def add (g : JoinGraph) (l : Link) : Except GraphError JoinGraph :=
  match l.fault? with
  | some fault => .error (.badLink l.leftTable l.rightTable fault)
  | none =>
    .ok ((((g.addTable l.leftTable).addTable l.rightTable).keepLink l).keepLink l.reversed)

/-- Puts a link into a graph in place. Every step changes the graph that the steps before have left, and a
failure takes none of them back. -/
def addLink (l : Link) : EStateM GraphError JoinGraph Unit := do
  if let some fault := l.fault? then
    throw (.badLink l.leftTable l.rightTable fault)
  modify (·.addTable l.leftTable)
  modify (·.addTable l.rightTable)
  modify (·.keepLink l)
  modify (·.keepLink l.reversed)

/-- The graph of a catalog, or the fault of the first unusable link. -/
def build (links : List Link) : Except GraphError JoinGraph :=
  links.foldlM add empty

end JoinGraph

end Joinery
