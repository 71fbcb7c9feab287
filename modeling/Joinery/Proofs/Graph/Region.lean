import Joinery.Proofs.Graph.Resolve

/-!
# Graphs that agree on a region

A region of a graph is a set of tables that no link leads out of. Whatever is asked about tables of a
region depends on the links of the region alone, so two graphs that agree on it give the same searches
(`AgreeOn.search_eq`), paths (`AgreeOn.resolve_eq`), conditions and plans, however many other tables they
have and in whatever order they came to know them.
-/

namespace Joinery

namespace JoinGraph

/-- Two graphs have the same to say about a table. -/
structure SameAt (g g' : JoinGraph) (table : String) : Prop where
  known : table ∈ g.tables ↔ table ∈ g'.tables
  links : g.links table = g'.links table

/-- Two graphs say the same about the tables of a region that no link leads out of. -/
structure AgreeOn (region : String → Prop) (g g' : JoinGraph) : Prop where
  same : ∀ table, region table → g.SameAt g' table
  closed : ∀ table, region table → ∀ next ∈ g.neighbors table, region next

variable {g g' : JoinGraph} {region : String → Prop}

theorem SameAt.neighbors {table : String} (h : g.SameAt g' table) :
    g.neighbors table = g'.neighbors table := by
  rw [JoinGraph.neighbors, JoinGraph.neighbors, h.links]

namespace AgreeOn

theorem reaches (h : g.AgreeOn region g') {a b : String} (inside : region a) (reached : g.Reaches a b) :
    region b ∧ g'.Reaches a b := by
  induction reached with
  | refl => exact ⟨inside, .refl⟩
  | tail _ linked ih => exact ⟨h.closed _ ih.1 _ linked, ih.2.tail ((h.same _ ih.1).neighbors ▸ linked)⟩

theorem symm (h : g.AgreeOn region g') : g'.AgreeOn region g where
  same table inside := ⟨(h.same table inside).known.symm, (h.same table inside).links.symm⟩
  closed table inside next linked :=
    h.closed table inside next ((h.same table inside).neighbors.symm ▸ linked)

/-! ## Searches -/

/-- A search that starts in the region stays there, so both graphs make the same steps. -/
theorem visitAll_eq (h : g.AgreeOn region g') (steps : Nat) {waiting : List Visit}
    (inside : ∀ v ∈ waiting, region v.table) (done : List Visit) :
    g.visitAll steps waiting done = g'.visitAll steps waiting done := by
  induction steps generalizing waiting done with
  | zero => rfl
  | succ steps ih =>
    cases waiting with
    | nil => rfl
    | cons v waiting =>
      rw [List.forall_mem_cons] at inside
      have next : g.nextVisits v (v :: waiting ++ done) = g'.nextVisits v (v :: waiting ++ done) := by
        rw [nextVisits, nextVisits, (h.same _ inside.1).neighbors]
      rw [visitAll, visitAll, next]
      refine ih (fun u hu => ?_) (v :: done)
      rcases List.mem_append.1 hu with hu | hu
      · exact inside.2 u hu
      · obtain ⟨table, linked, -, rfl⟩ := mem_nextVisits.1 (next ▸ hu)
        exact h.closed _ inside.1 table linked

/-- The graphs may have different numbers of tables, but both make steps enough. -/
theorem search_eq (h : g.AgreeOn region g') (wf : g.WellFormed) (wf' : g'.WellFormed)
    {source : String} (inside : region source) (known : source ∈ g.tables) :
    g.search source = g'.search source := by
  have known' := (h.same source inside).known.1 known
  have start : ∀ v ∈ [Visit.mk source 0 none], region v.table := by simpa using inside
  have visits : (g.search source).visits = (g'.search source).visits := by
    rw [← visitAll_eq_of_le wf known (Nat.le_add_right g.tableCount g'.tableCount),
      ← visitAll_eq_of_le wf' known' (Nat.le_add_left g'.tableCount g.tableCount)]
    exact h.visitAll_eq _ start []
  exact congrArg (Search.mk source) visits

/-! ## Paths, conditions and plans -/

theorem resolve_eq (h : g.AgreeOn region g') (wf : g.WellFormed) (wf' : g'.WellFormed)
    {required : List String} (inside : ∀ name ∈ required, region name) :
    g.resolve required = g'.resolve required := by
  have same_unknown : required.eraseDups.find? (!g.contains ·) =
      required.eraseDups.find? (!g'.contains ·) :=
    find?_unknown_congr fun name mem => (h.same name (inside name (List.mem_eraseDups.1 mem))).known
  unfold resolve
  dsimp only
  rw [same_unknown]
  split_ifs
  · rfl
  · cases unknown : required.eraseDups.find? (!g'.contains ·) with
    | some table => rfl
    | none =>
      have same_searches : required.eraseDups.map g.search = required.eraseDups.map g'.search := by
        refine List.map_congr_left fun name mem => ?_
        have known := List.find?_eq_none.1 (same_unknown.trans unknown) name mem
        have mem := List.mem_eraseDups.1 mem
        refine h.search_eq wf wf' (inside name mem) ?_
        simpa [contains_eq_true_iff] using known
      rw [same_searches]

theorem condition_eq (h : g.AgreeOn region g') {left : String} (inside : region left)
    (right : String) : g.condition left right = g'.condition left right := by
  rw [condition, condition, link?, link?, (h.same left inside).links]

theorem plan_eq (h : g.AgreeOn region g') {p : JoinPath} (inside : ∀ e ∈ p.edges, region e.left) :
    g.plan p = g'.plan p := by
  refine mapM_congr fun e he => ?_
  rw [planStep, planStep, h.condition_eq (inside e he)]

end AgreeOn

/-- The tables of a path are in pieces of required tables. -/
theorem WellFormed.exists_reaches_of_resolve (wf : g.WellFormed) {required : List String}
    {p : JoinPath} (resolved : g.resolve required = .ok p) {e : JoinEdge} (he : e ∈ p.edges) :
    ∃ name ∈ required, g.Reaches name e.left := by
  by_cases two : 2 ≤ required.eraseDups.length
  · have spans := spans_of_resolve wf resolved two
    obtain ⟨name, mem⟩ := List.exists_mem_of_length_pos (Nat.lt_of_lt_of_le Nat.zero_lt_two two)
    have mem := List.mem_eraseDups.1 mem
    obtain ⟨f, hf, touches⟩ := spans.covers name mem
    have connected := spans.connected p.edges (List.prefix_refl _) f hf e he name e.left touches
      (JoinEdge.touches_iff.2 (.inl rfl))
    refine ⟨name, mem, Relation.ReflTransGen.mono (fun a b step => ?_) _ _ connected⟩
    obtain ⟨k, hk, connects⟩ := step
    obtain ⟨-, right, left, -⟩ := spans.linked k hk
    rcases JoinEdge.connects_iff.1 connects with ⟨rfl, rfl⟩ | ⟨rfl, rfl⟩
    · exact right
    · exact left
  · have no_path := resolve_of_few (g := g) (Nat.not_le.1 two)
    cases resolved.symm.trans no_path
    exact absurd he List.not_mem_nil

end JoinGraph

end Joinery
