import Mathlib.Data.List.Nodup
import Joinery.Graph.Plan
import Joinery.Proofs.Outcome

/-!
# Graphs that are built from links

A graph is looked at through its tables and through the links of each table. `JoinGraph.WellFormed`
says what they keep: names and neighbours come once, every link is usable and starts at the table it
is kept at, and its reverse is kept at its other table. `wellFormed_of_build` shows it for every graph
that a catalog gives.
-/

namespace Joinery

open Text

/-! ## Usable links -/

/-- A link between two different tables with columns that match one by one. -/
structure Link.Usable (l : Link) : Prop where
  left_not_blank : isBlankText l.leftTable = false
  right_not_blank : isBlankText l.rightTable = false
  tables_ne : l.leftTable ≠ l.rightTable
  columns_ne_nil : l.leftColumns ≠ []
  length_eq : l.leftColumns.length = l.rightColumns.length

theorem Link.fault?_eq_none_iff {l : Link} : l.fault? = none ↔ l.Usable := by
  constructor
  · intro h
    unfold Link.fault? at h
    split_ifs at h with blank same empty counts
    rw [Bool.or_eq_true, not_or, Bool.not_eq_true, Bool.not_eq_true] at blank
    exact ⟨blank.1, blank.2, same, fun e => empty (.inl e), not_not.1 counts⟩
  · intro h
    have right_ne_nil : l.rightColumns ≠ [] := fun e =>
      h.columns_ne_nil (List.length_eq_zero_iff.1 (by rw [h.length_eq, e]; rfl))
    simp [Link.fault?, h.left_not_blank, h.right_not_blank, h.tables_ne, h.columns_ne_nil,
      right_ne_nil, h.length_eq]

theorem Link.Usable.reversed {l : Link} (h : l.Usable) : l.reversed.Usable where
  left_not_blank := h.right_not_blank
  right_not_blank := h.left_not_blank
  tables_ne := h.tables_ne.symm
  columns_ne_nil := fun e =>
    h.columns_ne_nil (List.length_eq_zero_iff.1 (by rw [h.length_eq]; exact congrArg List.length e))
  length_eq := h.length_eq.symm

/-! ## Setting a link -/

theorem map_rightTable_setLink (l : Link) (ls : List Link) :
    (setLink l ls).map (·.rightTable) =
      if l.rightTable ∈ ls.map (·.rightTable) then ls.map (·.rightTable)
      else ls.map (·.rightTable) ++ [l.rightTable] := by
  induction ls with
  | nil => rfl
  | cons m ls ih =>
    by_cases h : m.rightTable = l.rightTable
    · simp [setLink, h]
    · simp only [setLink, h, if_false, List.map_cons, ih, List.mem_cons, Ne.symm h, false_or]
      split_ifs <;> rfl

theorem nodup_map_rightTable_setLink {l : Link} {ls : List Link}
    (h : (ls.map (·.rightTable)).Nodup) : ((setLink l ls).map (·.rightTable)).Nodup := by
  rw [map_rightTable_setLink]
  split_ifs with mem
  · exact h
  · exact List.nodup_append.2 ⟨h, List.nodup_singleton _, fun a ha b hb e =>
      mem (List.mem_singleton.1 hb ▸ e ▸ ha)⟩

theorem mem_setLink_self (l : Link) (ls : List Link) : l ∈ setLink l ls := by
  induction ls with
  | nil => simp [setLink]
  | cons m ls ih =>
    rw [setLink]
    split_ifs
    · simp
    · exact List.mem_cons_of_mem _ ih

theorem mem_setLink_of_ne {l m : Link} {ls : List Link} (h : m ∈ ls)
    (ne : m.rightTable ≠ l.rightTable) : m ∈ setLink l ls := by
  induction ls with
  | nil => cases h
  | cons k ls ih =>
    rw [setLink]
    rcases List.mem_cons.1 h with rfl | h
    · rw [if_neg ne]
      simp
    · split_ifs
      · exact List.mem_cons_of_mem _ h
      · exact List.mem_cons_of_mem _ (ih h)

/-- Where every neighbour comes once, setting a link takes out the one it replaces. -/
theorem eq_or_of_mem_setLink {l m : Link} {ls : List Link} (nodup : (ls.map (·.rightTable)).Nodup)
    (h : m ∈ setLink l ls) : m = l ∨ m ∈ ls ∧ m.rightTable ≠ l.rightTable := by
  induction ls with
  | nil => exact .inl (by simpa [setLink] using h)
  | cons k ls ih =>
    rw [List.map_cons, List.nodup_cons] at nodup
    rw [setLink] at h
    split_ifs at h with hk
    · rcases List.mem_cons.1 h with rfl | h
      · exact .inl rfl
      · exact .inr ⟨List.mem_cons_of_mem _ h, fun e =>
          nodup.1 (hk ▸ e ▸ List.mem_map_of_mem h)⟩
    · rcases List.mem_cons.1 h with rfl | h
      · exact .inr ⟨by simp, hk⟩
      · exact (ih nodup.2 h).imp_right fun h => ⟨List.mem_cons_of_mem _ h.1, h.2⟩

namespace JoinGraph

/-! ## Tables and links of a grown graph -/

variable {g g' : JoinGraph} {l : Link}

theorem contains_eq_true_iff {table : String} : g.contains table = true ↔ table ∈ g.tables := by
  simp [contains, tables]

theorem mem_tables_of_mem_links {table : String} (h : l ∈ g.links table) : table ∈ g.tables := by
  unfold links at h
  cases found : g.nodes.find? (·.table = table) with
  | none => simp [found] at h
  | some n =>
    have := List.find?_some found
    exact List.mem_map.2 ⟨n, List.mem_of_find?_eq_some found, by simpa using this⟩

@[simp] theorem tables_addTable (g : JoinGraph) (table : String) :
    (g.addTable table).tables =
      if table ∈ g.tables then g.tables else g.tables ++ [table] := by
  rw [addTable]
  simp only [contains_eq_true_iff]
  split_ifs
  · rfl
  · simp [tables]

@[simp] theorem links_addTable (g : JoinGraph) (table u : String) :
    (g.addTable table).links u = g.links u := by
  rw [addTable]
  split_ifs with h
  · rfl
  · rw [contains_eq_true_iff] at h
    by_cases hu : table = u
    · subst hu
      have none_found : g.nodes.find? (·.table = table) = none := by
        rw [List.find?_eq_none]
        intro n hn e
        exact h (List.mem_map.2 ⟨n, hn, by simpa using e⟩)
      simp [links, List.find?_append, none_found]
    · simp [links, List.find?_append, hu]

@[simp] theorem tables_keepLink (g : JoinGraph) (l : Link) : (g.keepLink l).tables = g.tables := by
  simp only [keepLink, tables, List.map_map]
  refine List.map_congr_left fun n _ => ?_
  simp only [Function.comp_apply]
  split_ifs <;> rfl

theorem links_keepLink (g : JoinGraph) (l : Link) (u : String) :
    (g.keepLink l).links u =
      if u = l.leftTable ∧ u ∈ g.tables then setLink l (g.links u) else g.links u := by
  have kept : ((fun n : Node => decide (n.table = u)) ∘ fun n : Node =>
      if n.table = l.leftTable then { n with links := setLink l n.links } else n) =
        fun n => decide (n.table = u) := by
    funext n
    simp only [Function.comp_apply]
    split_ifs <;> rfl
  unfold links keepLink
  rw [List.find?_map, kept]
  cases found : g.nodes.find? (·.table = u) with
  | none =>
    have not_mem : u ∉ g.tables := fun h => by
      obtain ⟨n, hn, hu⟩ := List.mem_map.1 h
      exact List.find?_eq_none.1 found n hn (by simpa using hu)
    simp [not_mem]
  | some n =>
    have hu : n.table = u := by simpa using List.find?_some found
    have mem : u ∈ g.tables := List.mem_map.2 ⟨n, List.mem_of_find?_eq_some found, hu⟩
    subst hu
    simp only [Option.map_some, Option.getD_some, mem, and_true]
    split_ifs <;> rfl

/-- What a graph holds after a link was added, and that unusable links are not. -/
theorem add_eq_ok_iff :
    g.add l = .ok g' ↔ l.Usable ∧
      ((((g.addTable l.leftTable).addTable l.rightTable).keepLink l).keepLink l.reversed) = g' := by
  rw [← Link.fault?_eq_none_iff, add]
  cases l.fault? <;> simp

theorem mem_tables_of_add (h : g.add l = .ok g') {table : String} :
    table ∈ g'.tables ↔ table ∈ g.tables ∨ table = l.leftTable ∨ table = l.rightTable := by
  obtain ⟨-, rfl⟩ := add_eq_ok_iff.1 h
  simp only [tables_keepLink, tables_addTable]
  split_ifs <;> simp <;> grind

theorem nodup_tables_addTable {table : String} (h : g.tables.Nodup) :
    (g.addTable table).tables.Nodup := by
  rw [tables_addTable]
  split_ifs with mem
  · exact h
  · exact List.nodup_append.2 ⟨h, List.nodup_singleton _, fun a ha b hb e =>
      mem (List.mem_singleton.1 hb ▸ e ▸ ha)⟩

/-- Only the two tables of a link that is added see it, each from its own side. -/
theorem links_of_add (h : g.add l = .ok g') (table : String) :
    g'.links table =
      if table = l.leftTable then setLink l (g.links table)
      else if table = l.rightTable then setLink l.reversed (g.links table)
      else g.links table := by
  have left_mem : l.leftTable ∈ g'.tables := (mem_tables_of_add h).2 (by simp)
  have right_mem : l.rightTable ∈ g'.tables := (mem_tables_of_add h).2 (by simp)
  obtain ⟨usable, rfl⟩ := add_eq_ok_iff.1 h
  rw [tables_keepLink, tables_keepLink] at left_mem right_mem
  simp only [links_keepLink, tables_keepLink, links_addTable, Link.reversed]
  have ne := usable.tables_ne
  grind

/-! ## What every built graph keeps -/

/-- Names and neighbours come once, and the links of a table are usable, start at it and are kept in
reverse at their other table. -/
structure WellFormed (g : JoinGraph) : Prop where
  nodup_tables : g.tables.Nodup
  nodup_neighbors : ∀ table, (g.neighbors table).Nodup
  leftTable_eq : ∀ table, ∀ l ∈ g.links table, l.leftTable = table
  usable : ∀ table, ∀ l ∈ g.links table, l.Usable
  reversed_mem : ∀ table, ∀ l ∈ g.links table, l.reversed ∈ g.links l.rightTable

theorem wellFormed_empty : empty.WellFormed := by
  constructor <;> simp [empty, tables, neighbors, links]

theorem WellFormed.nodup_neighbors_add (wf : g.WellFormed) (h : g.add l = .ok g') (table : String) :
    (g'.neighbors table).Nodup := by
  unfold neighbors
  rw [links_of_add h]
  split_ifs
  · exact nodup_map_rightTable_setLink (wf.nodup_neighbors table)
  · exact nodup_map_rightTable_setLink (wf.nodup_neighbors table)
  · exact wf.nodup_neighbors table

/-- The links of a table after one was added: that one, from the side of the table, or an earlier one
to another table. -/
theorem WellFormed.mem_links_add (wf : g.WellFormed) (h : g.add l = .ok g') {table : String}
    {m : Link} (hm : m ∈ g'.links table) :
    m = l ∧ table = l.leftTable ∨ m = l.reversed ∧ table = l.rightTable ∨
      m ∈ g.links table ∧ ¬ (table = l.leftTable ∧ m.rightTable = l.rightTable) ∧
        ¬ (table = l.rightTable ∧ m.rightTable = l.leftTable) := by
  have ne := (add_eq_ok_iff.1 h).1.tables_ne
  rw [links_of_add h] at hm
  split_ifs at hm with left right
  · rcases eq_or_of_mem_setLink (wf.nodup_neighbors table) hm with rfl | ⟨hm, hr⟩
    · exact .inl ⟨rfl, left⟩
    · exact .inr (.inr ⟨hm, fun e => hr e.2, fun e => ne (left.symm.trans e.1)⟩)
  · rcases eq_or_of_mem_setLink (wf.nodup_neighbors table) hm with rfl | ⟨hm, hr⟩
    · exact .inr (.inl ⟨rfl, right⟩)
    · exact .inr (.inr ⟨hm, fun e => left e.1, fun e => hr e.2⟩)
  · exact .inr (.inr ⟨hm, fun e => left e.1, fun e => right e.1⟩)

/-- Links to other tables stay where they were. -/
theorem mem_links_add_of_mem (h : g.add l = .ok g') {table : String} {m : Link}
    (hm : m ∈ g.links table) (left : ¬ (table = l.leftTable ∧ m.rightTable = l.rightTable))
    (right : ¬ (table = l.rightTable ∧ m.rightTable = l.leftTable)) : m ∈ g'.links table := by
  rw [links_of_add h]
  split_ifs with hl hr
  · exact mem_setLink_of_ne hm fun e => left ⟨hl, e⟩
  · exact mem_setLink_of_ne hm fun e => right ⟨hr, e⟩
  · exact hm

theorem WellFormed.add (wf : g.WellFormed) (h : g.add l = .ok g') : g'.WellFormed where
  nodup_tables := by
    obtain ⟨-, rfl⟩ := add_eq_ok_iff.1 h
    rw [tables_keepLink, tables_keepLink]
    exact nodup_tables_addTable (nodup_tables_addTable wf.nodup_tables)
  nodup_neighbors := wf.nodup_neighbors_add h
  leftTable_eq table m hm := by
    rcases wf.mem_links_add h hm with ⟨rfl, rfl⟩ | ⟨rfl, rfl⟩ | ⟨hm, -⟩
    · rfl
    · rfl
    · exact wf.leftTable_eq table m hm
  usable table m hm := by
    have usable := (add_eq_ok_iff.1 h).1
    rcases wf.mem_links_add h hm with ⟨rfl, -⟩ | ⟨rfl, -⟩ | ⟨hm, -⟩
    · exact usable
    · exact usable.reversed
    · exact wf.usable table m hm
  reversed_mem table m hm := by
    have ne := (add_eq_ok_iff.1 h).1.tables_ne
    rcases wf.mem_links_add h hm with ⟨rfl, rfl⟩ | ⟨rfl, rfl⟩ | ⟨hm, left, right⟩
    · rw [links_of_add h, if_neg ne.symm, if_pos rfl]
      exact mem_setLink_self _ _
    · rw [links_of_add h]
      exact (if_pos rfl).symm ▸ mem_setLink_self l _
    · have start : m.leftTable = table := wf.leftTable_eq table m hm
      refine mem_links_add_of_mem h (wf.reversed_mem table m hm) ?_ ?_
      · exact fun e => right ⟨start ▸ e.2, e.1⟩
      · exact fun e => left ⟨start ▸ e.2, e.1⟩

/-- Every graph that a catalog gives is well formed. -/
theorem wellFormed_of_build {ls : List Link} (h : build ls = .ok g) : g.WellFormed :=
  foldlM_invariant (P := WellFormed) (fun _ _ _ _ wf h => wf.add h) wellFormed_empty h

/-! ## Links between two tables -/

/-- Two tables are linked when each is a neighbour of the other. -/
theorem WellFormed.mem_neighbors_comm (wf : g.WellFormed) {a b : String} :
    b ∈ g.neighbors a ↔ a ∈ g.neighbors b := by
  have one_way : ∀ {a b : String}, b ∈ g.neighbors a → a ∈ g.neighbors b := by
    intro a b h
    obtain ⟨l, hl, rfl⟩ := List.mem_map.1 h
    exact List.mem_map.2 ⟨l.reversed, wf.reversed_mem a l hl, wf.leftTable_eq a l hl⟩
  exact ⟨one_way, one_way⟩

theorem WellFormed.ne_of_mem_neighbors (wf : g.WellFormed) {a b : String}
    (h : b ∈ g.neighbors a) : a ≠ b := by
  obtain ⟨l, hl, rfl⟩ := List.mem_map.1 h
  exact wf.leftTable_eq a l hl ▸ (wf.usable a l hl).tables_ne

/-- The link between two neighbours, seen from the first one. -/
theorem WellFormed.exists_link? (wf : g.WellFormed) {a b : String} (h : b ∈ g.neighbors a) :
    ∃ l, g.link? a b = some l ∧ l.leftTable = a ∧ l.rightTable = b ∧ l.Usable := by
  obtain ⟨m, hm, hb⟩ := List.mem_map.1 h
  obtain ⟨l, hl⟩ := Option.isSome_iff_exists.1
    (List.find?_isSome.2 ⟨m, hm, by simpa using hb⟩ :
      ((g.links a).find? (·.rightTable = b)).isSome)
  have mem := List.mem_of_find?_eq_some hl
  exact ⟨l, hl, wf.leftTable_eq a l mem, by simpa using List.find?_some hl, wf.usable a l mem⟩

end JoinGraph

end Joinery
