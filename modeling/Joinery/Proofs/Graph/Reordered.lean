import Joinery.Proofs.Graph.Catalog
import Joinery.Proofs.Graph.Distance
import Joinery.Proofs.Graph.Resolve

/-!
# Catalogs in another order

A graph that is built from the same links in another order has its tables and neighbours in another order,
and a search may find another one of several shortest ways. What does not change are the distances, so the
table of distances is the same, and with it the tour of the required tables. The walk along a tour is as
long as the tour (`length_steps_walkAlong`), whichever ways it takes. `Journey` keeps tour and walk of a
resolved path; `reordered_same_journey` compares them.
-/

namespace Joinery

/-! ## Walks are as long as tours -/

theorem length_steps (walk : List String) : (JoinPath.steps walk).length = walk.length - 1 := by
  induction walk with
  | nil => rfl
  | cons a walk ih =>
    cases walk with
    | nil => rfl
    | cons b walk =>
      rw [JoinPath.steps, List.length_cons, ih]
      rfl

namespace JoinGraph

variable {g g' : JoinGraph}

theorem length_walkAlong (wf : g.WellFormed) {searches : List Search}
    (searched : ∀ r ∈ searches, r = g.search r.source) {cost : CostMatrix}
    (costs : costMatrix searches = .ok cost) {i : Nat} {tour : List Nat}
    (inside : ∀ j ∈ i :: tour, j < searches.length) :
    (walkAlong ((i :: tour).filterMap (searches[·]?))).length = cost.tourCost (i :: tour) + 1 := by
  induction tour generalizing i with
  | nil =>
    have at_i := List.getElem?_eq_getElem (inside i (by simp))
    rw [List.filterMap_cons_some at_i]
    rfl
  | cons j tour ih =>
    have at_i := List.getElem?_eq_getElem (inside i (by simp))
    have at_j := List.getElem?_eq_getElem (inside j (by simp))
    have rest := ih fun k hk => inside k (List.mem_cons_of_mem i hk)
    have leg := hops?_eq_between costs at_i at_j
    rw [searched _ (List.mem_of_getElem? at_i)] at leg
    have length := length_route wf leg
    rw [← searched _ (List.mem_of_getElem? at_i)] at length
    rw [List.filterMap_cons_some at_j] at rest
    rw [List.filterMap_cons_some at_i, List.filterMap_cons_some at_j, walkAlong, List.length_append,
      List.length_dropLast, length, rest, CostMatrix.tourCost]
    omega

/-- A walk along a tour has as many steps as the tour costs. -/
theorem length_steps_walkAlong (wf : g.WellFormed) {searches : List Search}
    (searched : ∀ r ∈ searches, r = g.search r.source) {cost : CostMatrix}
    (costs : costMatrix searches = .ok cost) {tour : List Nat}
    (inside : ∀ j ∈ tour, j < searches.length) :
    (JoinPath.steps (walkAlong (tour.filterMap (searches[·]?)))).length = cost.tourCost tour := by
  cases tour with
  | nil => rfl
  | cons i tour =>
    rw [length_steps, length_walkAlong wf searched costs inside]
    rfl

theorem length_steps_tour (wf : g.WellFormed) {names : List String} {cost : CostMatrix}
    (costs : costMatrix (names.map g.search) = .ok cost) :
    (JoinPath.steps (walkAlong (cost.tour.filterMap ((names.map g.search)[·]?)))).length =
      cost.tourCost cost.tour := by
  refine length_steps_walkAlong wf (List.forall_mem_map.2 fun _ _ => rfl) costs fun j hj => ?_
  rw [← length_costMatrix costs]
  exact List.mem_range.1 (cost.perm_tour.mem_iff.1 hj)

/-! ## Journeys -/

/-- The required tables in the order in which they are visited, and the walk that visits them. -/
structure Journey where
  stops : List String := []
  walk : List String := []

/-- How many links a journey goes along. -/
def Journey.hops (j : Journey) : Nat :=
  (JoinPath.steps j.walk).length

/-- The journey behind a resolved path. -/
def journey (g : JoinGraph) (required : List String) : Except GraphError Journey :=
  let names := required.eraseDups
  if names.length < 2 then .ok {}
  else
    match names.find? (!g.contains ·) with
    | some table => .error (.unknownTable table)
    | none => (costMatrix (names.map g.search)).map fun cost =>
      ⟨cost.tour.filterMap (names[·]?), walkAlong (cost.tour.filterMap ((names.map g.search)[·]?))⟩

theorem resolve_eq_journey (g : JoinGraph) (required : List String) :
    g.resolve required = (g.journey required).map fun j => .ofWalk j.walk := by
  unfold resolve journey
  dsimp only
  split_ifs
  · rfl
  · cases required.eraseDups.find? (!g.contains ·) with
    | some table => rfl
    | none => cases costMatrix (required.eraseDups.map g.search) <;> rfl

/-- Paths of two graphs visit the required tables in the same order by the same number of links, if there
are such paths, and otherwise they fail for the same reason. -/
structure SameJourney (g g' : JoinGraph) (required : List String) : Prop where
  failed : ∀ e, g.resolve required = .error e ↔ g'.resolve required = .error e
  resolved : ∀ p, g.resolve required = .ok p → ∃ j j', g.journey required = .ok j ∧
    g'.journey required = .ok j' ∧ p = .ofWalk j.walk ∧ g'.resolve required = .ok (.ofWalk j'.walk) ∧
    j.stops = j'.stops ∧ j.hops = j'.hops

/-- What two graphs that give the same journeys agree in. -/
def outline (g : JoinGraph) (required : List String) : Except GraphError (List String × Nat) :=
  (g.journey required).map fun j => (j.stops, j.hops)

theorem SameJourney.of_outline {required : List String}
    (same : g.outline required = g'.outline required) : g.SameJourney g' required := by
  unfold outline at same
  have resolve := resolve_eq_journey g required
  have resolve' := resolve_eq_journey g' required
  cases made : g.journey required <;> cases made' : g'.journey required <;>
    rw [made, made'] at same <;> rw [made] at resolve <;> rw [made'] at resolve'
  case error.error e e' =>
    obtain rfl := Except.error.inj same
    rw [← resolve'] at resolve
    exact ⟨fun _ => by rw [resolve], fun p h => by rw [resolve, resolve'] at h; cases h⟩
  case error.ok => cases same
  case ok.error => cases same
  case ok.ok j j' =>
    obtain ⟨stops, hops⟩ := Prod.mk.inj (Except.ok.inj same)
    refine ⟨fun e => ?_, fun p h => ⟨j, j', made, made', ?_, resolve', stops, hops⟩⟩
    · rw [resolve, resolve']
      exact ⟨nofun, nofun⟩
    · rw [resolve] at h
      exact (Except.ok.inj h).symm

/-! ## Graphs with the same links -/

/-- Two graphs have the same tables and links, in any order. -/
structure SameLinks (g g' : JoinGraph) : Prop where
  tables : g.tables.Perm g'.tables
  neighbors : ∀ table, (g.neighbors table).Perm (g'.neighbors table)

theorem SameLinks.hops?_eq (same : g.SameLinks g') (wf : g.WellFormed) (wf' : g'.WellFormed)
    {source : String} (known : source ∈ g.tables) (target : String) :
    (g.search source).hops? target = (g'.search source).hops? target := by
  have known' := same.tables.mem_iff.1 known
  refine Option.ext fun n => ?_
  rw [hops?_eq_some_iff wf known, hops?_eq_some_iff wf' known']
  exact distance_congr fun a b => (same.neighbors a).mem_iff

theorem costMatrix_congr {names : List String}
    (same : ∀ a ∈ names, ∀ b ∈ names, (g.search a).hops? b = (g'.search a).hops? b) :
    costMatrix (names.map g.search) = costMatrix (names.map g'.search) := by
  unfold costMatrix
  rw [List.mapM_map, List.mapM_map]
  refine mapM_congr fun a ha => ?_
  rw [Function.comp_apply, Function.comp_apply, List.mapM_map, List.mapM_map]
  refine mapM_congr fun b hb => ?_
  have hops : (g.search a).hops? (g.search b).source = (g'.search a).hops? (g'.search b).source :=
    same a ha b hb
  rw [Function.comp_apply, Function.comp_apply, hops]
  rfl

theorem SameLinks.outline_eq (same : g.SameLinks g') (wf : g.WellFormed) (wf' : g'.WellFormed)
    (required : List String) : g.outline required = g'.outline required := by
  unfold outline journey
  dsimp only
  rw [← find?_unknown_congr fun name _ => same.tables.mem_iff]
  split_ifs
  · rfl
  · cases unknown : required.eraseDups.find? (!g.contains ·) with
    | some table => rfl
    | none =>
      have known : ∀ name ∈ required.eraseDups, name ∈ g.tables := fun name mem => by
        simpa [contains_eq_true_iff] using List.find?_eq_none.1 unknown name mem
      have same_costs : costMatrix (required.eraseDups.map g.search) =
          costMatrix (required.eraseDups.map g'.search) :=
        costMatrix_congr fun a ha b _ => same.hops?_eq wf wf' (known a ha) b
      cases costs : costMatrix (required.eraseDups.map g.search) with
      | error e =>
        rw [← same_costs, costs]
        rfl
      | ok cost =>
        -- The tours are the same, and each walk is as long as its tour, by whichever way it goes.
        have costs' := same_costs.symm.trans costs
        have lengths := (length_steps_tour wf costs).trans (length_steps_tour wf' costs').symm
        rw [costs']
        exact congrArg (fun n => Except.ok (cost.tour.filterMap (required.eraseDups[·]?), n)) lengths

/-! ## The same links in another order -/

theorem sameLinks_of_perm {ls ls' : List Link} (perm : ls.Perm ls') (built : build ls = .ok g)
    (built' : build ls' = .ok g') : g.SameLinks g' := by
  have wf := wellFormed_of_build built
  have wf' := wellFormed_of_build built'
  have kept := keeps_of_build built
  have kept' := keeps_of_build built'
  constructor
  case tables =>
    refine (List.perm_ext_iff_of_nodup wf.nodup_tables wf'.nodup_tables).2 fun table => ?_
    rw [kept.tables, kept'.tables, List.mem_eraseDups, List.mem_eraseDups]
    exact (perm.flatMap_right _).mem_iff
  case neighbors =>
    intro a
    refine (List.perm_ext_iff_of_nodup (wf.nodup_neighbors a) (wf'.nodup_neighbors a)).2 fun b => ?_
    rw [kept.neighbors, kept'.neighbors, List.mem_eraseDups, List.mem_eraseDups]
    exact (perm.filterMap _).mem_iff

theorem getLast?_eq_of_perm {α : Type} {as bs : List α} (perm : as.Perm bs)
    (alike : ∀ a ∈ as, ∀ b ∈ as, a = b) : as.getLast? = bs.getLast? := by
  cases last : as.getLast? with
  | none =>
    obtain rfl := List.getLast?_eq_none_iff.1 last
    rw [← perm.nil_eq]
    rfl
  | some a =>
    cases last' : bs.getLast? with
    | none =>
      obtain rfl := List.getLast?_eq_none_iff.1 last'
      rw [perm.eq_nil] at last
      cases last
    | some b =>
      have mem := perm.mem_iff.2 (List.mem_of_getLast? last')
      rw [alike a (List.mem_of_getLast? last) b mem]

theorem condition_eq_of_perm {ls ls' : List Link} (perm : ls.Perm ls') (built : build ls = .ok g)
    (built' : build ls' = .ok g') {a b : String}
    (alike : ∀ l ∈ ls, ∀ m ∈ ls, l.pair = s(a, b) → m.pair = s(a, b) → m = l ∨ m = l.reversed) :
    g.condition a b = g'.condition a b := by
  have usable := exists_build_iff.1 ⟨g, built⟩
  have same : g.link? a b = g'.link? a b := by
    rw [(keeps_of_build built).link?, (keeps_of_build built').link?]
    refine getLast?_eq_of_perm (perm.filterMap _) fun x hx y hy => ?_
    obtain ⟨l, hl, from_l⟩ := List.mem_filterMap.1 hx
    obtain ⟨m, hm, from_m⟩ := List.mem_filterMap.1 hy
    have l_pair := Link.between?_isSome_iff.1 (Option.isSome_of_mem from_l)
    have m_pair := Link.between?_isSome_iff.1 (Option.isSome_of_mem from_m)
    rcases alike l hl m hm l_pair m_pair with rfl | rfl
    · exact Option.some.inj (from_l.symm.trans from_m)
    · rw [Link.between?_reversed (usable l hl).tables_ne] at from_m
      exact Option.some.inj (from_l.symm.trans from_m)
  rw [condition, condition, same]

/-- A catalog in another order has the same tables and links, and visits required tables in the same order
by as many links. Where all links between two tables are alike, they are joined in the same way. -/
theorem reordered_same_journey {ls ls' : List Link} (usable : ∀ l ∈ ls, l.Usable) (perm : ls.Perm ls')
    (required : List String) :
    ∃ g g', build ls = .ok g ∧ build ls' = .ok g' ∧ g.SameLinks g' ∧ g.SameJourney g' required ∧
      ∀ a b, (∀ l ∈ ls, ∀ m ∈ ls, l.pair = s(a, b) → m.pair = s(a, b) → m = l ∨ m = l.reversed) →
        g.condition a b = g'.condition a b := by
  obtain ⟨g, built⟩ := exists_build_iff.2 usable
  obtain ⟨g', built'⟩ := exists_build_iff.2 fun l hl => usable l (perm.mem_iff.2 hl)
  have same := sameLinks_of_perm perm built built'
  have journeys := same.outline_eq (wellFormed_of_build built) (wellFormed_of_build built') required
  exact ⟨g, g', built, built', same, .of_outline journeys,
    fun _ _ alike => condition_eq_of_perm perm built built' alike⟩

/-- Sales are made in shops and to customers, and both are in cities. -/
def saleLinks : List Link :=
  [⟨"sale", "shop", ["shop_id"], ["id"]⟩, ⟨"shop", "city", ["city_id"], ["id"]⟩,
    ⟨"sale", "customer", ["customer_id"], ["id"]⟩, ⟨"customer", "city", ["city_id"], ["id"]⟩]

/-- From last to first, the links lead to cities over customers and no more over shops. -/
theorem sale_reversed_same_journey :
    ∃ g g', build saleLinks = .ok g ∧ build saleLinks.reverse = .ok g' ∧
      g.resolve ["city", "sale"] = .ok ⟨[⟨"city", "shop"⟩, ⟨"sale", "shop"⟩]⟩ ∧
      g'.resolve ["city", "sale"] = .ok ⟨[⟨"city", "customer"⟩, ⟨"customer", "sale"⟩]⟩ ∧
      g.SameJourney g' ["city", "sale"] ∧ ∀ a b, g.condition a b = g'.condition a b := by
  have usable : ∀ l ∈ saleLinks, l.Usable := by
    have faultless : ∀ l ∈ saleLinks, l.fault? = none := by decide +kernel
    exact fun l hl => Link.fault?_eq_none_iff.1 (faultless l hl)
  have found : (build saleLinks >>= (·.resolve ["city", "sale"])) =
      .ok ⟨[⟨"city", "shop"⟩, ⟨"sale", "shop"⟩]⟩ := by decide +kernel
  have found' : (build saleLinks.reverse >>= (·.resolve ["city", "sale"])) =
      .ok ⟨[⟨"city", "customer"⟩, ⟨"customer", "sale"⟩]⟩ := by decide +kernel
  obtain ⟨g, g', built, built', -, journeys, conditions⟩ :=
    reordered_same_journey usable (List.reverse_perm saleLinks).symm ["city", "sale"]
  rw [built] at found
  rw [built'] at found'
  refine ⟨g, g', built, built', found, found', journeys, fun a b => conditions a b ?_⟩
  have once : ∀ l ∈ saleLinks, ∀ m ∈ saleLinks, l.pair = m.pair → m = l := by decide +kernel
  exact fun l hl m hm l_pair m_pair => .inl (once l hl m hm (l_pair.trans m_pair.symm))

end JoinGraph

end Joinery
