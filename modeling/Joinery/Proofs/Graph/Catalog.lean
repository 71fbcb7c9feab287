import Mathlib.Algebra.BigOperators.Group.List.Lemmas
import Mathlib.Algebra.GroupWithZero.Nat
import Mathlib.Data.Finset.Card
import Mathlib.Data.Sym.Sym2
import Joinery.Proofs.EraseDups
import Joinery.Proofs.Graph.WellFormed

/-!
# What a graph keeps of a catalog

Of all links between two tables a graph keeps the last one, in the place of the first one. `Keeps` says
so of everything that can be asked of a graph: its tables, the neighbours of a table, the link between two
tables and the number of links. Each link that is added keeps it (`Keeps.add`), so it holds of the graph
of every catalog (`keeps_of_build`) and of a graph that links were offered to one after another, some of
which it refused (`offered_graph_last_wins`).
-/

namespace Joinery

/-! ## Links of two tables -/

namespace Link

/-- The two tables of a link, in no order. -/
def pair (l : Link) : Sym2 String :=
  s(l.leftTable, l.rightTable)

/-- The link seen from one table, if it leads to the other one. -/
def between? (a b : String) (l : Link) : Option Link :=
  if l.leftTable = a ∧ l.rightTable = b then some l
  else if l.leftTable = b ∧ l.rightTable = a then some l.reversed
  else none

/-- The table that a link leads to from another one. -/
def otherEnd? (a : String) (l : Link) : Option String :=
  if l.leftTable = a then some l.rightTable
  else if l.rightTable = a then some l.leftTable
  else none

theorem pair_eq_iff {l : Link} {a b : String} :
    l.pair = s(a, b) ↔ l.leftTable = a ∧ l.rightTable = b ∨ l.leftTable = b ∧ l.rightTable = a :=
  Sym2.eq_iff

theorem otherEnd?_eq_some_iff {l : Link} {a b : String} :
    l.otherEnd? a = some b ↔ l.pair = s(a, b) := by
  rw [pair_eq_iff, otherEnd?]
  split_ifs with left right
  · rw [Option.some.injEq]
    grind
  · rw [Option.some.injEq]
    grind
  · grind

theorem between?_isSome_iff {l : Link} {a b : String} :
    (l.between? a b).isSome ↔ l.pair = s(a, b) := by
  rw [pair_eq_iff, between?]
  split_ifs with left right <;> simp_all

theorem between?_swap {l : Link} (ne : l.leftTable ≠ l.rightTable) (a b : String) :
    l.between? b a = (l.between? a b).map reversed := by
  unfold between?
  split_ifs with first second second
  · exact absurd (first.1.trans second.2.symm) ne
  · rfl
  · rfl
  · rfl

/-- Links have no direction. -/
theorem between?_reversed {l : Link} (ne : l.leftTable ≠ l.rightTable) (a b : String) :
    l.reversed.between? a b = l.between? a b := by
  show (if l.rightTable = a ∧ l.leftTable = b then some l.reversed
    else if l.rightTable = b ∧ l.leftTable = a then some l else none) = l.between? a b
  unfold between?
  grind

end Link

/-! ## Setting a link -/

theorem find?_setLink (l : Link) (ls : List Link) (table : String) :
    (setLink l ls).find? (·.rightTable = table) =
      if l.rightTable = table then some l else ls.find? (·.rightTable = table) := by
  induction ls with
  | nil => by_cases h : l.rightTable = table <;> simp [setLink, h]
  | cons m ls ih =>
    rw [setLink]
    by_cases same : m.rightTable = l.rightTable
    · rw [if_pos same, List.find?_cons, List.find?_cons, same]
      by_cases h : l.rightTable = table <;> simp [h]
    · rw [if_neg same, List.find?_cons, ih, List.find?_cons]
      by_cases h : m.rightTable = table
      · have other : ¬ l.rightTable = table := fun e => same (h.trans e.symm)
        simp [h, other]
      · simp [h]

theorem length_setLink (l : Link) (ls : List Link) :
    (setLink l ls).length =
      ls.length + if l.rightTable ∈ ls.map (·.rightTable) then 0 else 1 := by
  have lengths := congrArg List.length (map_rightTable_setLink l ls)
  split_ifs at lengths ⊢ with mem <;> simpa using lengths

namespace JoinGraph

variable {g g' : JoinGraph} {l : Link} {ls : List Link}

theorem mem_neighbors_iff {a b : String} : b ∈ g.neighbors a ↔ ∃ l, g.link? a b = some l := by
  rw [← Option.isSome_iff_exists, link?, List.find?_isSome, neighbors, List.mem_map]
  simp

/-- A table that is not there has no links. -/
theorem links_eq_nil {table : String} (absent : table ∉ g.tables) : g.links table = [] := by
  rw [List.eq_nil_iff_forall_not_mem]
  exact fun l mem => absent (mem_tables_of_mem_links mem)

theorem tables_of_add (added : g.add l = .ok g') :
    g'.tables = ((g.addTable l.leftTable).addTable l.rightTable).tables := by
  obtain ⟨-, rfl⟩ := add_eq_ok_iff.1 added
  rw [tables_keepLink, tables_keepLink]

/-- New tables stand behind those that were there. -/
theorem exists_tables_of_add (added : g.add l = .ok g') :
    ∃ new, g'.tables = g.tables ++ new ∧ ∀ table ∈ new, table ∉ g.tables := by
  rw [tables_of_add added, tables_addTable, tables_addTable]
  by_cases left : l.leftTable ∈ g.tables <;> by_cases right : l.rightTable ∈ g.tables
  · exact ⟨[], by simp [left, right], nofun⟩
  · exact ⟨[l.rightTable], by simp [left, right], by simpa using right⟩
  · exact ⟨[l.leftTable], by simp [left, right], by simpa using left⟩
  · refine ⟨[l.leftTable, l.rightTable], ?_, by simp [left, right]⟩
    have ne := (add_eq_ok_iff.1 added).1.tables_ne
    simp [left, right, ne.symm]

/-! ## The number of links -/

/-- The links of a graph are those of its tables. -/
theorem edgeCount_eq_sum (nodup : g.tables.Nodup) :
    g.edgeCount = (g.tables.map fun table => (g.links table).length).sum := by
  have own : ∀ n ∈ g.nodes, g.links n.table = n.links := by
    intro n mem
    have found : g.nodes.find? (·.table = n.table) = some n := by
      rw [← List.head?_filter, filter_eq_singleton_of_nodup nodup mem]
      rfl
    rw [links, found]
    rfl
  rw [edgeCount, List.length_flatMap, tables, List.map_map]
  refine congrArg List.sum (List.map_congr_left fun n mem => ?_)
  rw [Function.comp_apply, own n mem]

/-- How many links a table gets with a link to another one: none if the two were linked before. -/
def gain (g : JoinGraph) (l : Link) : Nat :=
  if l.rightTable ∈ g.neighbors l.leftTable then 0 else 1

theorem WellFormed.gain_reversed (wf : g.WellFormed) (l : Link) : g.gain l.reversed = g.gain l :=
  if_congr wf.mem_neighbors_comm rfl rfl

theorem WellFormed.length_links_add (wf : g.WellFormed) (added : g.add l = .ok g') (table : String) :
    (g'.links table).length = (g.links table).length +
      ((if table = l.leftTable then g.gain l else 0) +
        if table = l.rightTable then g.gain l else 0) := by
  have ne := (add_eq_ok_iff.1 added).1.tables_ne
  rw [links_of_add added]
  by_cases left : table = l.leftTable
  · subst left
    rw [if_pos rfl, if_pos rfl, if_neg ne, length_setLink]
    rfl
  · by_cases right : table = l.rightTable
    · subst right
      rw [if_neg left, if_pos rfl, if_neg left, if_pos rfl, length_setLink, ← wf.gain_reversed,
        Nat.zero_add]
      rfl
    · simp [left, right]

theorem WellFormed.edgeCount_add (wf : g.WellFormed) (added : g.add l = .ok g') :
    g'.edgeCount = g.edgeCount + 2 * g.gain l := by
  have nodup := (wf.add added).nodup_tables
  have left_mem : l.leftTable ∈ g'.tables := (mem_tables_of_add added).2 (by simp)
  have right_mem : l.rightTable ∈ g'.tables := (mem_tables_of_add added).2 (by simp)
  have once : ∀ t ∈ g'.tables, (g'.tables.map fun u => if u = t then g.gain l else 0).sum =
      g.gain l := by
    intro t mem
    rw [List.sum_map_eq_nsmul_single t _ fun u ne _ => if_neg ne, List.count_eq_one_of_mem nodup mem,
      if_pos rfl, one_nsmul]
  -- The tables that come in had no links.
  have old : (g'.tables.map fun t => (g.links t).length).sum = g.edgeCount := by
    obtain ⟨new, tables, absent⟩ := exists_tables_of_add added
    have none_yet : (new.map fun t => (g.links t).length).sum = 0 := by
      refine List.sum_eq_zero (List.forall_mem_map.2 fun t mem => ?_)
      rw [links_eq_nil (absent t mem), List.length_nil]
    rw [tables, List.map_append, List.sum_append, none_yet, edgeCount_eq_sum wf.nodup_tables,
      Nat.add_zero]
  rw [edgeCount_eq_sum nodup, List.map_congr_left fun t _ => wf.length_links_add added t,
    List.sum_map_add, List.sum_map_add, old, once _ left_mem, once _ right_mem, Nat.two_mul]

/-! ## Last links in first places -/

/-- What a graph holds of some links. -/
structure Keeps (g : JoinGraph) (ls : List Link) : Prop where
  /-- The tables stand in the order in which the links name them. -/
  tables : g.tables = (ls.flatMap fun l => [l.leftTable, l.rightTable]).eraseDups
  /-- Neighbours stand in the order of the first links to them. -/
  neighbors : ∀ table, g.neighbors table = (ls.filterMap (·.otherEnd? table)).eraseDups
  /-- Of all links between two tables the last one is kept. -/
  link? : ∀ a b, g.link? a b = (ls.filterMap (·.between? a b)).getLast?
  /-- Every pair of tables that some link joins counts twice. -/
  edgeCount : g.edgeCount = 2 * (ls.map Link.pair).toFinset.card

theorem keeps_empty : empty.Keeps [] where
  tables := rfl
  neighbors _ := rfl
  link? _ _ := rfl
  edgeCount := rfl

theorem getLast?_filterMap_concat {α β : Type} (f : α → Option β) (as : List α) (a : α) :
    ((as ++ [a]).filterMap f).getLast? = (f a).or (as.filterMap f).getLast? := by
  cases h : f a <;> simp [List.filterMap_append, h]

theorem tables_addTable_of_eq {names : List String} (h : g.tables = names.eraseDups)
    (table : String) : (g.addTable table).tables = (names ++ [table]).eraseDups := by
  rw [tables_addTable, eraseDups_concat_eq, h]

theorem Keeps.tables_add (kept : g.Keeps ls) (added : g.add l = .ok g') :
    g'.tables = ((ls ++ [l]).flatMap fun l => [l.leftTable, l.rightTable]).eraseDups := by
  rw [tables_of_add added, List.flatMap_append, List.flatMap_singleton, List.append_cons]
  exact tables_addTable_of_eq (tables_addTable_of_eq kept.tables _) _

theorem Keeps.neighbors_add (kept : g.Keeps ls) (added : g.add l = .ok g') (table : String) :
    g'.neighbors table = ((ls ++ [l]).filterMap (·.otherEnd? table)).eraseDups := by
  have old := kept.neighbors table
  rw [JoinGraph.neighbors, links_of_add added, List.filterMap_append]
  by_cases left : table = l.leftTable
  · have other : l.otherEnd? table = some l.rightTable := if_pos left.symm
    rw [if_pos left, map_rightTable_setLink, List.filterMap_cons_some other, List.filterMap_nil,
      eraseDups_concat_eq, ← old]
    rfl
  · by_cases right : table = l.rightTable
    · have other : l.otherEnd? table = some l.leftTable := by
        rw [Link.otherEnd?, if_neg (Ne.symm left), if_pos right.symm]
      rw [if_neg left, if_pos right, map_rightTable_setLink, List.filterMap_cons_some other,
        List.filterMap_nil, eraseDups_concat_eq, ← old]
      rfl
    · have other : l.otherEnd? table = none := by
        rw [Link.otherEnd?, if_neg (Ne.symm left), if_neg (Ne.symm right)]
      rw [if_neg left, if_neg right, List.filterMap_cons_none other, List.filterMap_nil,
        List.append_nil]
      exact old

theorem Keeps.link?_add (kept : g.Keeps ls) (added : g.add l = .ok g') (a b : String) :
    g'.link? a b = ((ls ++ [l]).filterMap (·.between? a b)).getLast? := by
  have ne := (add_eq_ok_iff.1 added).1.tables_ne
  rw [getLast?_filterMap_concat, ← kept.link?, JoinGraph.link?, links_of_add added, Link.between?]
  by_cases left : l.leftTable = a
  · subst left
    rw [if_pos rfl, find?_setLink]
    by_cases same : l.rightTable = b <;> simp [same, ne.symm, JoinGraph.link?]
  · by_cases right : l.rightTable = a
    · subst right
      rw [if_neg (Ne.symm left), if_pos rfl, find?_setLink]
      rcases eq_or_ne l.leftTable b with rfl | other
      · simp [ne, Link.reversed]
      · simp [ne, other, JoinGraph.link?, Link.reversed]
    · rw [if_neg (Ne.symm left), if_neg (Ne.symm right), if_neg fun h => left h.1,
        if_neg fun h => right h.2]
      rfl

theorem Keeps.mem_neighbors_iff (kept : g.Keeps ls) {a b : String} :
    b ∈ g.neighbors a ↔ ∃ l ∈ ls, l.pair = s(a, b) := by
  simp only [kept.neighbors, List.mem_eraseDups, List.mem_filterMap, Link.otherEnd?_eq_some_iff]

theorem Keeps.edgeCount_add (kept : g.Keeps ls) (wf : g.WellFormed) (added : g.add l = .ok g') :
    g'.edgeCount = 2 * ((ls ++ [l]).map Link.pair).toFinset.card := by
  have gain : g.gain l = if l.pair ∈ (ls.map Link.pair).toFinset then 0 else 1 := by
    refine if_congr ?_ rfl rfl
    rw [kept.mem_neighbors_iff, List.mem_toFinset, List.mem_map]
    rfl
  have pairs : ((ls ++ [l]).map Link.pair).toFinset = insert l.pair (ls.map Link.pair).toFinset := by
    rw [List.map_append, List.toFinset_append, Finset.union_comm]
    rfl
  rw [wf.edgeCount_add added, kept.edgeCount, gain, pairs, Finset.card_insert_eq_ite]
  split_ifs <;> omega

theorem Keeps.add (kept : g.Keeps ls) (wf : g.WellFormed) (added : g.add l = .ok g') :
    g'.Keeps (ls ++ [l]) where
  tables := kept.tables_add added
  neighbors := kept.neighbors_add added
  link? := kept.link?_add added
  edgeCount := kept.edgeCount_add wf added

theorem build_concat (ls : List Link) (l : Link) : build (ls ++ [l]) = build ls >>= (·.add l) := by
  rw [build, List.foldlM_append]
  refine congrArg (build ls >>= ·) (funext fun g => ?_)
  rw [List.foldlM_cons]
  cases g.add l <;> rfl

/-- The graph of a catalog keeps the links of the catalog. -/
theorem keeps_of_build (built : build ls = .ok g) : g.Keeps ls := by
  induction ls using List.reverseRecOn generalizing g with
  | nil => exact Except.ok.inj built ▸ keeps_empty
  | append_singleton ls l ih =>
    obtain ⟨before, built, added⟩ := bind_eq_ok_iff.1 (build_concat ls l ▸ built)
    exact (ih built).add (wellFormed_of_build built) added

/-! ## Usable catalogs -/

theorem add_eq_error_iff {e : GraphError} :
    g.add l = .error e ↔ ∃ fault, l.fault? = some fault ∧
      e = .badLink l.leftTable l.rightTable fault := by
  rw [add]
  cases l.fault? <;> simp [eq_comm]

/-- A catalog has a graph if all of its links are usable. -/
theorem exists_build_iff : (∃ g, build ls = .ok g) ↔ ∀ l ∈ ls, l.Usable := by
  induction ls using List.reverseRecOn with
  | nil => exact ⟨fun _ => nofun, fun _ => ⟨empty, rfl⟩⟩
  | append_singleton ls l ih =>
    simp only [build_concat, bind_eq_ok_iff, add_eq_ok_iff, List.forall_mem_append,
      List.forall_mem_singleton, ← ih]
    constructor
    · rintro ⟨g', g, built, usable, -⟩
      exact ⟨⟨g, built⟩, usable⟩
    · rintro ⟨⟨g, built⟩, usable⟩
      exact ⟨_, g, built, usable, rfl⟩

/-- The first link that cannot be used is blamed. -/
theorem build_eq_error_iff {e : GraphError} :
    build ls = .error e ↔ ∃ before l after fault, ls = before ++ l :: after ∧
      (∀ m ∈ before, m.Usable) ∧ l.fault? = some fault ∧
      e = .badLink l.leftTable l.rightTable fault := by
  induction ls using List.reverseRecOn with
  | nil => simp [build, pure, Except.pure]
  | append_singleton ls l ih =>
    rw [build_concat, bind_eq_error_iff, ih]
    constructor
    · rintro (⟨before, m, after, fault, rfl, usable, faulty, rfl⟩ | ⟨g, built, failed⟩)
      · exact ⟨before, m, after ++ [l], fault, by simp, usable, faulty, rfl⟩
      · obtain ⟨fault, faulty, rfl⟩ := add_eq_error_iff.1 failed
        exact ⟨ls, l, [], fault, rfl, exists_build_iff.1 ⟨g, built⟩, faulty, rfl⟩
    · rintro ⟨before, m, after, fault, split, usable, faulty, rfl⟩
      rcases List.eq_nil_or_concat' after with rfl | ⟨after, last, rfl⟩
      · obtain ⟨rfl, same⟩ := List.append_inj' split rfl
        obtain rfl := List.singleton_inj.1 same
        obtain ⟨g, built⟩ := exists_build_iff.2 usable
        exact .inr ⟨g, built, add_eq_error_iff.2 ⟨fault, faulty, rfl⟩⟩
      · have split : ls ++ [l] = (before ++ m :: after) ++ [last] := by simpa using split
        obtain ⟨rfl, -⟩ := List.append_inj' split rfl
        exact .inl ⟨before, m, after, fault, rfl, usable, faulty, rfl⟩

/-! ## Links that are offered one after another -/

/-- In place, the graph with a link comes about, or the fault and the graph as it was. -/
theorem run_addLink (g : JoinGraph) (l : Link) :
    (addLink l).run g = match g.add l with
      | .ok g' => .ok () g'
      | .error e => .error e g := by
  rw [add]
  cases faulty : l.fault? with
  | some fault =>
    rw [addLink, faulty]
    rfl
  | none =>
    rw [addLink, faulty]
    rfl

/-- The graph that is there after a link was offered to it, whether the link was taken or refused. -/
def offer (g : JoinGraph) (l : Link) : JoinGraph :=
  match (addLink l).run g with
  | .ok _ g' => g'
  | .error _ g' => g'

/-- A link that is refused changes nothing. -/
theorem offer_of_error {e : GraphError} (refused : g.add l = .error e) : g.offer l = g := by
  rw [offer, run_addLink, refused]

theorem offer_of_ok (added : g.add l = .ok g') : g.offer l = g' := by
  rw [offer, run_addLink, added]

/-- The links that a graph takes of those that are offered to it one after another. -/
def taken (g : JoinGraph) : List Link → List Link
  | [] => []
  | l :: ls =>
    match g.add l with
    | .ok g' => l :: g'.taken ls
    | .error _ => g.taken ls

theorem foldlM_add_taken (g : JoinGraph) (offered : List Link) :
    (g.taken offered).foldlM add g = .ok (offered.foldl offer g) := by
  induction offered generalizing g with
  | nil => rfl
  | cons l offered ih =>
    rw [List.foldl_cons, taken]
    cases added : g.add l with
    | error e =>
      rw [offer_of_error added]
      exact ih g
    | ok g' =>
      rw [offer_of_ok added, ← ih g']
      simp only [List.foldlM_cons, added]
      rfl

/-- Whether a link is taken does not depend on the links that came before. -/
theorem taken_eq_filter (g : JoinGraph) {offered : List Link} :
    g.taken offered = offered.filter (·.fault? = none) := by
  induction offered generalizing g with
  | nil => rfl
  | cons l offered ih =>
    rw [taken, List.filter_cons]
    cases added : g.add l with
    | error e =>
      obtain ⟨fault, faulty, -⟩ := add_eq_error_iff.1 added
      simp [faulty, ih]
    | ok g' =>
      have usable := Link.fault?_eq_none_iff.2 (add_eq_ok_iff.1 added).1
      simp [usable, ih]

/-! ## The map of a catalog -/

/-- Places and names of tables belong to each other. -/
theorem place?_eq_some_iff (nodup : g.tables.Nodup) {table : String} {place : Nat} :
    g.place? table = some place ↔ g.tableAt? place = some table := by
  rw [place?, tableAt?, List.idxOf?_eq_some_iff, List.getElem?_eq_some_iff]
  refine exists_congr fun inside => and_iff_left_of_imp fun here j before there => ?_
  have same := nodup.getElem_inj_iff.1 (there.trans here.symm)
  omega

theorem isSome_place?_iff {table : String} : (g.place? table).isSome ↔ table ∈ g.tables := by
  rw [← not_iff_not, Bool.not_eq_true, Option.isSome_eq_false_iff, Option.isNone_iff_eq_none, place?,
    List.idxOf?_eq_none_iff]

/-- A graph is a map from two tables to the last of some links between them. -/
structure LastWins (g : JoinGraph) (ls : List Link) : Prop extends g.Keeps ls where
  nodup_tables : g.tables.Nodup
  nodup_neighbors : ∀ table, (g.neighbors table).Nodup
  /-- Every table has a place, which no other table has. -/
  known : ∀ table, (g.place? table).isSome ↔ table ∈ g.tables
  place : ∀ table place, g.place? table = some place ↔ g.tableAt? place = some table
  /-- Two tables are linked if some link names both. -/
  linked : ∀ a b, b ∈ g.neighbors a ↔ ∃ l ∈ ls, l.pair = s(a, b)
  found : ∀ a b, (g.link? a b).isSome ↔ ∃ l ∈ ls, l.pair = s(a, b)
  /-- The two tables of a link see the same one from its two sides. -/
  turned : ∀ a b, g.link? b a = (g.link? a b).map Link.reversed
  apart : ∀ table, table ∉ g.neighbors table
  fits : ∀ a b l, g.link? a b = some l → l.leftTable = a ∧ l.rightTable = b ∧
    l.leftColumns ≠ [] ∧ l.rightColumns ≠ [] ∧ l.leftColumns.length = l.rightColumns.length

theorem lastWins_of_build (built : build ls = .ok g) : g.LastWins ls := by
  have wf := wellFormed_of_build built
  have kept := keeps_of_build built
  constructor
  case toKeeps => exact kept
  case nodup_tables => exact wf.nodup_tables
  case nodup_neighbors => exact wf.nodup_neighbors
  case known => exact fun _ => isSome_place?_iff
  case place => exact fun _ _ => place?_eq_some_iff wf.nodup_tables
  case linked => exact fun _ _ => kept.mem_neighbors_iff
  case found =>
    intro a b
    rw [← kept.mem_neighbors_iff, mem_neighbors_iff, Option.isSome_iff_exists]
  case turned =>
    intro a b
    have each : ∀ l ∈ ls, l.between? b a = (l.between? a b).map Link.reversed := fun l mem =>
      Link.between?_swap (exists_build_iff.1 ⟨g, built⟩ l mem).tables_ne a b
    rw [kept.link?, kept.link?, List.filterMap_congr each, ← List.map_filterMap, List.getLast?_map]
  case apart => exact fun table mem => wf.ne_of_mem_neighbors mem rfl
  case fits =>
    intro a b l found
    obtain ⟨m, same, left, right, usable⟩ := wf.exists_link? (mem_neighbors_iff.2 ⟨l, found⟩)
    obtain rfl := Option.some.inj (same.symm.trans found)
    exact ⟨left, right, usable.columns_ne_nil, usable.reversed.columns_ne_nil, usable.length_eq⟩

/-- A graph that links are offered to takes the usable ones, and then it is what it would be without
the others: the map in which the last one wins. A catalog has such a graph if it has usable links alone;
otherwise its first other link is blamed. -/
theorem offered_graph_last_wins (offered : List Link) :
    empty.taken offered = offered.filter (·.fault? = none) ∧
      build (empty.taken offered) = .ok (offered.foldl offer empty) ∧
      (offered.foldl offer empty).LastWins (empty.taken offered) ∧
      ((∃ g, build offered = .ok g) ↔ ∀ l ∈ offered, l.Usable) ∧
      ∀ e, build offered = .error e ↔ ∃ before l after fault, offered = before ++ l :: after ∧
        (∀ m ∈ before, m.Usable) ∧ l.fault? = some fault ∧
        e = .badLink l.leftTable l.rightTable fault := by
  have built := foldlM_add_taken empty offered
  exact ⟨taken_eq_filter empty, built, lastWins_of_build built, exists_build_iff,
    fun _ => build_eq_error_iff⟩

/-- Orders are linked to customers again, from the other side and by other columns, which they are joined
by from then on. A link of a table to itself is refused. -/
example : let g := [⟨"order", "customer", ["customer"], ["id"]⟩, ⟨"order", "order", ["id"], ["id"]⟩,
      ⟨"order", "item", ["id"], ["order_id"]⟩,
      ⟨"customer", "order", ["shop", "number"], ["shop", "customer"]⟩].foldl offer empty
    g.tables = ["order", "customer", "item"] ∧ g.neighbors "order" = ["customer", "item"] ∧
      g.link? "order" "customer" =
        some ⟨"order", "customer", ["shop", "customer"], ["shop", "number"]⟩ ∧
      g.edgeCount = 4 := by
  decide +kernel

end JoinGraph

end Joinery
