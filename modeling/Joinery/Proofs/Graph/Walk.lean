import Joinery.Graph.Path
import Joinery.Proofs.Graph.Search
import Joinery.Proofs.Graph.Tour

/-!
# Walks from stop to stop

`walkAlong` joins the routes between neighbouring stops. `IsWalk` says what comes of it: each table is
linked to the next, every stop is passed, and a table that is no stop stands between two different
tables, because no route turns back. `exists_walk_of_resolve` finds the walk behind a resolved path.
-/

namespace Joinery

namespace JoinGraph

/-- A walk along links that passes every stop and turns back at stops alone. -/
structure IsWalk (g : JoinGraph) (stops walk : List String) : Prop where
  head : walk.head? = stops.head?
  linked : walk.IsChain fun x y => y ∈ g.neighbors x
  passes : ∀ stop ∈ stops, stop ∈ walk
  between : ∀ table ∈ walk, table ∉ stops →
    ∃ before after, [before, table, after] <:+: walk ∧ before ≠ after

variable {g : JoinGraph}

/-- A table inside a route stands between two different tables. -/
theorem IsRoute.between {a b table : String} {way : List String} (h : g.IsRoute a b way)
    (mem : table ∈ way) (ne_first : table ≠ a) (ne_last : table ≠ b) :
    ∃ before after, [before, table, after] <:+: way ∧ before ≠ after := by
  obtain ⟨front, back, rfl⟩ := List.append_of_mem mem
  obtain ⟨y, back, rfl⟩ : ∃ y ys, back = y :: ys := by
    cases back with
    | nil =>
      have last := h.last
      rw [List.getLast?_concat] at last
      exact absurd (Option.some.inj last) ne_last
    | cons y back => exact ⟨y, back, rfl⟩
  rcases List.eq_nil_or_concat' front with rfl | ⟨front, x, rfl⟩
  · exact absurd (Option.some.inj h.head) ne_first
  · refine ⟨x, y, ⟨front, back, by simp⟩, fun e => ?_⟩
    have nodup := h.nodup
    rw [e, List.append_assoc] at nodup
    have tail := (List.nodup_append.1 nodup).2.1
    simp at tail

theorem IsWalk.single (g : JoinGraph) (stop : String) : g.IsWalk [stop] [stop] where
  head := rfl
  linked := List.isChain_singleton stop
  passes _ h := h
  between _ h not_stop := absurd h not_stop

/-- A walk may begin with a route to its first stop. -/
theorem IsWalk.extend {a b : String} {stops way walk : List String} (route : g.IsRoute a b way)
    (rest : g.IsWalk (b :: stops) walk) : g.IsWalk (a :: b :: stops) (way.dropLast ++ walk) := by
  obtain ⟨tail, rfl⟩ := List.head?_eq_some_iff.1 rest.head
  obtain ⟨front, rfl⟩ := List.getLast?_eq_some_iff.1 route.last
  have same : front ++ b :: tail = front ++ [b] ++ tail := by simp
  have front_part : front ++ [b] <:+: front ++ b :: tail := same ▸ (List.prefix_append _ _).isInfix
  have rest_part : b :: tail <:+: front ++ b :: tail := (List.suffix_append _ _).isInfix
  rw [List.dropLast_concat]
  refine ⟨?_, ?_, ?_, ?_⟩
  · have head := route.head
    cases front <;> simpa using head
  · rw [same]
    exact route.linked.append_overlap rest.linked (List.cons_ne_nil b [])
  · intro stop h
    rcases List.mem_cons.1 h with rfl | h
    · exact front_part.subset (List.mem_of_mem_head? route.head)
    · exact rest_part.subset (rest.passes stop h)
  · intro table h not_stop
    rw [List.mem_cons, not_or] at not_stop
    rcases List.mem_append.1 h with h | h
    · obtain ⟨before, after, part, ne⟩ := route.between (List.mem_append_left [b] h) not_stop.1
        fun e => not_stop.2 (by simp [e])
      exact ⟨before, after, part.trans front_part, ne⟩
    · obtain ⟨before, after, part, ne⟩ := rest.between table h not_stop.2
      exact ⟨before, after, part.trans rest_part, ne⟩

/-- Searches of a graph from tables that all reach each other. -/
structure Connecting (g : JoinGraph) (searches : List Search) : Prop where
  searched : ∀ r ∈ searches, r = g.search r.source
  reached : ∀ r ∈ searches, ∀ s ∈ searches, ∃ hops, r.hops? s.source = some hops

theorem isWalk_walkAlong (wf : g.WellFormed) {searches : List Search} (h : g.Connecting searches)
    (ne : searches ≠ []) : g.IsWalk (searches.map (·.source)) (walkAlong searches) := by
  induction searches with
  | nil => exact absurd rfl ne
  | cons r rest ih =>
    cases rest with
    | nil => exact .single g r.source
    | cons next rest =>
      obtain ⟨hops, reached⟩ := h.reached r (by simp) next (by simp)
      have route : g.IsRoute r.source next.source (r.route next.source) := by
        rw [h.searched r (by simp)] at reached ⊢
        exact isRoute_of_hops? wf reached
      refine IsWalk.extend route (ih ⟨?_, ?_⟩ (List.cons_ne_nil _ _))
      · exact fun s hs => h.searched s (List.mem_cons_of_mem r hs)
      · exact fun s hs t ht =>
          h.reached s (List.mem_cons_of_mem r hs) t (List.mem_cons_of_mem r ht)

/-! ## The walk behind a resolved path -/

theorem exists_hops_of_costMatrix {searches : List Search} {cost : CostMatrix}
    (h : costMatrix searches = .ok cost) {r s : Search} (hr : r ∈ searches) (hs : s ∈ searches) :
    ∃ hops, r.hops? s.source = some hops := by
  obtain ⟨row, -, row_ok⟩ := exists_of_mem_of_mapM h hr
  obtain ⟨hops, -, cell⟩ := exists_of_mem_of_mapM row_ok hs
  cases found : r.hops? s.source with
  | some hops => exact ⟨hops, rfl⟩
  | none =>
    rw [found] at cell
    cases cell

theorem length_costMatrix {searches : List Search} {cost : CostMatrix}
    (h : costMatrix searches = .ok cost) : cost.length = searches.length :=
  (mapM_eq_ok_iff.1 h).length_eq.symm

theorem hops?_eq_between {searches : List Search} {cost : CostMatrix}
    (costs : costMatrix searches = .ok cost) {i j : Nat} {r s : Search} (hr : searches[i]? = some r)
    (hs : searches[j]? = some s) : r.hops? s.source = some (cost.between i j) := by
  obtain ⟨row, row_at, row_ok⟩ := exists_getElem?_of_mapM costs hr
  obtain ⟨hops, cell_at, cell⟩ := exists_getElem?_of_mapM row_ok hs
  have entry : cost.between i j = hops := by
    rw [CostMatrix.between, row_at, Option.bind_some, cell_at, Option.getD_some]
  rw [entry]
  cases found : r.hops? s.source with
  | none =>
    rw [found] at cell
    cases cell
  | some n =>
    rw [found] at cell
    rw [Except.ok.inj cell]

theorem filterMap_getElem?_range (searches : List Search) :
    (List.range searches.length).filterMap (searches[·]?) = searches := by
  induction searches using List.reverseRecOn with
  | nil => rfl
  | append_singleton rest r ih =>
    rw [List.length_append, List.length_singleton, List.range_succ, List.filterMap_append]
    have front : (List.range rest.length).filterMap ((rest ++ [r])[·]?) =
        (List.range rest.length).filterMap (rest[·]?) :=
      List.filterMap_congr fun i hi => List.getElem?_append_left (List.mem_range.1 hi)
    rw [front, ih]
    simp

/-- A path of two tables or more goes along the tour that its distances give. -/
theorem exists_costMatrix_of_resolve {required : List String} {p : JoinPath}
    (h : g.resolve required = .ok p) (two : 2 ≤ required.eraseDups.length) :
    ∃ cost, costMatrix (required.eraseDups.map g.search) = .ok cost ∧
      p = .ofWalk (walkAlong (cost.tour.filterMap ((required.eraseDups.map g.search)[·]?))) := by
  unfold resolve at h
  dsimp only at h
  rw [if_neg (Nat.not_lt.2 two)] at h
  cases unknown : required.eraseDups.find? (!g.contains ·) with
  | some table =>
    rw [unknown] at h
    cases h
  | none =>
    rw [unknown] at h
    obtain ⟨cost, costs, h⟩ := bind_eq_ok_iff.1 h
    exact ⟨cost, costs, (Except.ok.inj h).symm⟩

/-- Along a tour of all stops goes a walk. -/
theorem exists_isWalk_of_costMatrix (wf : g.WellFormed) {names : List String} (ne : names ≠ [])
    {cost : CostMatrix} (costs : costMatrix (names.map g.search) = .ok cost) :
    ∃ stops, stops.Perm names ∧
      g.IsWalk stops (walkAlong (cost.tour.filterMap ((names.map g.search)[·]?))) := by
  generalize all : names.map g.search = searches at costs ⊢
  have order : (cost.tour.filterMap (searches[·]?)).Perm searches := by
    have tour := (cost.perm_tour).filterMap (searches[·]?)
    rwa [length_costMatrix costs, filterMap_getElem?_range] at tour
  have connecting : g.Connecting (cost.tour.filterMap (searches[·]?)) := by
    refine ⟨fun r hr => ?_, fun r hr s hs => ?_⟩
    · have hr := order.mem_iff.1 hr
      rw [← all] at hr
      obtain ⟨name, -, rfl⟩ := List.mem_map.1 hr
      rfl
    · exact exists_hops_of_costMatrix costs (order.mem_iff.1 hr) (order.mem_iff.1 hs)
  have sources : searches.map (·.source) = names := by
    rw [← all, List.map_map]
    exact List.map_id _
  refine ⟨_, (order.map _).trans (sources ▸ .refl _), isWalk_walkAlong wf connecting ?_⟩
  intro none_left
  rw [none_left] at order
  rw [← sources, ← order.nil_eq] at ne
  exact ne rfl

/-- A path between two tables or more comes from a walk that passes all of them, in the order of a
tour. -/
theorem exists_walk_of_resolve (wf : g.WellFormed) {required : List String} {p : JoinPath}
    (h : g.resolve required = .ok p) (two : 2 ≤ required.eraseDups.length) :
    ∃ stops walk, stops.Perm required.eraseDups ∧ g.IsWalk stops walk ∧ p = .ofWalk walk := by
  obtain ⟨cost, costs, rfl⟩ := exists_costMatrix_of_resolve h two
  have ne : required.eraseDups ≠ [] := List.ne_nil_of_length_pos (Nat.lt_of_lt_of_le Nat.zero_lt_two two)
  obtain ⟨stops, order, isWalk⟩ := exists_isWalk_of_costMatrix wf ne costs
  exact ⟨stops, _, order, isWalk, rfl⟩

end JoinGraph

end Joinery
