import Mathlib.Data.List.Chain
import Joinery.Proofs.Graph.WellFormed

/-!
# What a search finds

The visits of a search form a `Trail`: each one goes on from an earlier one to a neighbour that was
not visited before, the first one excepted. `Searching` is what every step of the search keeps, so
the way read off the visits is a route: it starts and ends where it should, each table on it is linked
to the next, and no table comes twice (`isRoute_of_hops?`).
-/

namespace Joinery

namespace JoinGraph

/-- A way along links from one table to another on which no table comes twice. -/
structure IsRoute (g : JoinGraph) (a b : String) (way : List String) : Prop where
  head : way.head? = some a
  last : way.getLast? = some b
  linked : way.IsChain fun x y => y ∈ g.neighbors x
  nodup : way.Nodup

/-- A visit that starts a search or goes on from an earlier one. -/
inductive Follows (g : JoinGraph) (source : String) (earlier : List Visit) : Visit → Prop
  | start : Follows g source earlier ⟨source, 0, none⟩
  | step {u : Visit} {table : String} (mem : u ∈ earlier) (linked : table ∈ g.neighbors u.table) :
      Follows g source earlier ⟨table, u.hops + 1, some u.table⟩

/-- Visits of different tables, latest first, each of which follows from those before it. -/
inductive Trail (g : JoinGraph) (source : String) : List Visit → Prop
  | nil : Trail g source []
  | cons {v : Visit} {earlier : List Visit} (follows : g.Follows source earlier v)
      (fresh : v.table ∉ earlier.map (·.table)) (trail : Trail g source earlier) :
      Trail g source (v :: earlier)

variable {g : JoinGraph} {source : String}

theorem Follows.mono {earlier earlier' : List Visit} {v : Visit} (h : g.Follows source earlier v)
    (sub : earlier ⊆ earlier') : g.Follows source earlier' v := by
  cases h with
  | start => exact .start
  | step mem linked => exact .step (sub mem) linked

theorem Trail.nodup {visits : List Visit} (h : g.Trail source visits) :
    (visits.map (·.table)).Nodup := by
  induction h with
  | nil => exact List.nodup_nil
  | cons _ fresh _ ih => exact List.nodup_cons.2 ⟨fresh, ih⟩

/-! ## Steps of a search -/

/-- What a search keeps: what is done is a trail, what is waiting goes on from it, and no table is
in both or twice in one of them. -/
structure Searching (g : JoinGraph) (source : String) (waiting done : List Visit) : Prop where
  trail : g.Trail source done
  follows : ∀ v ∈ waiting, g.Follows source done v
  nodup : ((waiting ++ done).map (·.table)).Nodup

theorem searching_start (g : JoinGraph) (source : String) :
    g.Searching source [⟨source, 0, none⟩] [] where
  trail := .nil
  follows := by
    intro v hv
    obtain rfl := List.mem_singleton.1 hv
    exact .start
  nodup := by simp

theorem mem_nextVisits {u v : Visit} {known : List Visit} :
    v ∈ g.nextVisits u known ↔
      ∃ table ∈ g.neighbors u.table, table ∉ known.map (·.table) ∧
        v = ⟨table, u.hops + 1, some u.table⟩ := by
  simp only [nextVisits, List.mem_map, List.mem_filter, Bool.not_eq_true', List.any_eq_false,
    decide_eq_true_eq, not_exists, not_and]
  constructor
  · rintro ⟨table, ⟨linked, fresh⟩, rfl⟩
    exact ⟨table, linked, fresh, rfl⟩
  · rintro ⟨table, linked, fresh, rfl⟩
    exact ⟨table, ⟨linked, fresh⟩, rfl⟩

theorem map_table_nextVisits (u : Visit) (known : List Visit) :
    (g.nextVisits u known).map (·.table) =
      (g.neighbors u.table).filter fun t => !known.any (·.table = t) := by
  simp [nextVisits, Function.comp_def]

theorem Searching.step (wf : g.WellFormed) {v : Visit} {waiting done : List Visit}
    (h : g.Searching source (v :: waiting) done) :
    g.Searching source (waiting ++ g.nextVisits v (v :: waiting ++ done)) (v :: done) where
  trail := by
    have fresh : v.table ∉ (waiting ++ done).map (·.table) := (List.nodup_cons.1 h.nodup).1
    rw [List.map_append, List.mem_append, not_or] at fresh
    exact .cons (h.follows v (by simp)) fresh.2 h.trail
  follows w hw := by
    rcases List.mem_append.1 hw with hw | hw
    · exact (h.follows w (by simp [hw])).mono (List.subset_cons_self v done)
    · obtain ⟨table, linked, -, rfl⟩ := mem_nextVisits.1 hw
      exact .step (by simp) linked
  nodup := by
    -- The tables that come in new are put between those that were known before.
    have same : (waiting ++ g.nextVisits v (v :: waiting ++ done) ++ v :: done).Perm
        (g.nextVisits v (v :: waiting ++ done) ++ (v :: waiting ++ done)) := by
      refine (List.perm_append_comm.append_right _).trans ?_
      rw [List.append_assoc]
      exact List.perm_middle.append_left _
    rw [(same.map _).nodup_iff, List.map_append, List.nodup_append]
    refine ⟨?_, h.nodup, ?_⟩
    · rw [map_table_nextVisits]
      exact (wf.nodup_neighbors _).filter _
    · intro a ha b hb e
      obtain ⟨w, hw, rfl⟩ := List.mem_map.1 ha
      obtain ⟨table, -, fresh, rfl⟩ := mem_nextVisits.1 hw
      obtain rfl : table = b := e
      exact fresh hb

theorem Searching.trail_visitAll (wf : g.WellFormed) {steps : Nat} {waiting done : List Visit}
    (h : g.Searching source waiting done) : g.Trail source (g.visitAll steps waiting done) := by
  induction steps generalizing waiting done with
  | zero => exact h.trail
  | succ steps ih =>
    cases waiting with
    | nil => exact h.trail
    | cons v waiting => exact ih (h.step wf)

theorem trail_search (wf : g.WellFormed) (source : String) :
    g.Trail source (g.search source).visits :=
  (searching_start g source).trail_visitAll wf

/-! ## The way back -/

/-- The way back along a trail ends at its source, and each table on it was reached from the next. -/
structure IsWayBack (g : JoinGraph) (source target : String) (visits : List Visit)
    (way : List String) : Prop where
  head : way.head? = some target
  last : way.getLast? = some source
  linked : way.IsChain fun x y => x ∈ g.neighbors y
  sublist : way.Sublist (visits.map (·.table))

theorem Trail.isWayBack {visits : List Visit} (h : g.Trail source visits) {target : String}
    (mem : target ∈ visits.map (·.table)) :
    g.IsWayBack source target visits (Search.wayBack visits target) := by
  induction h generalizing target with
  | nil => cases mem
  | @cons v earlier follows fresh trail ih =>
    by_cases here : v.table = target
    · subst here
      cases follows with
      | start => exact ⟨by simp [Search.wayBack], by simp [Search.wayBack], by simp [Search.wayBack],
          by simp [Search.wayBack]⟩
      | @step u table reached linked =>
        have back := ih (List.mem_map_of_mem reached)
        have unfolded : Search.wayBack (⟨table, u.hops + 1, some u.table⟩ :: earlier) table =
            table :: Search.wayBack earlier u.table := by simp [Search.wayBack]
        rw [unfolded]
        refine ⟨rfl, ?_, ?_, back.sublist.cons_cons table⟩
        · rw [List.getLast?_cons, back.last]
          rfl
        · exact List.isChain_cons.2
            ⟨fun y hy => Option.some.inj (back.head.symm.trans hy) ▸ linked, back.linked⟩
    · have mem' : target ∈ earlier.map (·.table) :=
        (List.mem_cons.1 mem).resolve_left (Ne.symm here)
      have unfolded : Search.wayBack (v :: earlier) target = Search.wayBack earlier target := by
        simp [Search.wayBack, here]
      rw [unfolded]
      have back := ih mem'
      exact ⟨back.head, back.last, back.linked, back.sublist.cons _⟩

theorem exists_visit_of_hops? {r : Search} {target : String} {n : Nat} (h : r.hops? target = some n) :
    ∃ v ∈ r.visits, v.table = target ∧ v.hops = n := by
  obtain ⟨v, first, rfl⟩ := Option.map_eq_some_iff.1 h
  exact ⟨v, List.mem_of_find?_eq_some first, by simpa using List.find?_some first, rfl⟩

/-- The route to a table that was reached. -/
theorem isRoute_of_hops? (wf : g.WellFormed) {target : String} {n : Nat}
    (h : (g.search source).hops? target = some n) :
    g.IsRoute source target ((g.search source).route target) := by
  have mem : target ∈ (g.search source).visits.map (·.table) := by
    obtain ⟨v, hv, same, -⟩ := exists_visit_of_hops? h
    exact List.mem_map.2 ⟨v, hv, same⟩
  have trail := trail_search wf source
  have back := trail.isWayBack mem
  unfold Search.route
  refine ⟨?_, ?_, ?_, ?_⟩
  · rw [List.head?_reverse, back.last]
  · rw [List.getLast?_reverse, back.head]
  · exact List.isChain_reverse.2 back.linked
  · exact List.nodup_reverse.2 (back.sublist.nodup trail.nodup)

end JoinGraph

end Joinery
