import Joinery.Proofs.Graph.Catalog
import Joinery.Proofs.Graph.Metric

/-!
# Searches end and know shortest ways

A search goes on as long as a visit waits, and a way is read off it by going from a table to the one before
as long as there is one. Neither says how often: `JoinGraph.RunsTo` and `Search.Retraces` are these loops
without a bound. Both end. A search makes at most one visit to a table, and the table before another is one
link nearer to the source. `searches_know_shortest_ways` puts together what a search from a table of any
graph knows.
-/

namespace Joinery

namespace Search

/-- The table before one on the way to it, if it was reached from another. -/
def before? (r : Search) (target : String) : Option String :=
  (r.visits.find? (·.table = target)).bind (·.before)

/-- Goes from a table to the one before as long as there is one, and lists the tables that it passes. -/
inductive Retraces (r : Search) : String → List String → Prop
  | source {table : String} (first : r.before? table = none) : Retraces r table [table]
  | back {table earlier : String} {way : List String} (reached : r.before? table = some earlier)
      (rest : Retraces r earlier way) : Retraces r table (table :: way)

theorem Retraces.unique {r : Search} {target : String} {way way' : List String}
    (h : r.Retraces target way) (h' : r.Retraces target way') : way = way' := by
  induction h generalizing way' with
  | source first =>
    cases h' with
    | source => rfl
    | back reached => cases first.symm.trans reached
  | back reached _ ih =>
    cases h' with
    | source first => cases first.symm.trans reached
    | back reached' rest' =>
      obtain rfl := Option.some.inj (reached.symm.trans reached')
      rw [ih rest']

/-- A table is visited once, so it is found at its visit. -/
theorem find?_visit {r : Search} (nodup : (r.visits.map (·.table)).Nodup) {v : Visit} (mem : v ∈ r.visits) :
    r.visits.find? (·.table = v.table) = some v := by
  cases found : r.visits.find? (·.table = v.table) with
  | none => exact absurd (decide_eq_true rfl) (List.find?_eq_none.1 found v mem)
  | some u =>
    have same : u.table = v.table := by simpa using List.find?_some found
    rw [List.inj_on_of_nodup_map nodup (List.mem_of_find?_eq_some found) mem same]

theorem wayBack_of_not_mem {visits : List Visit} {target : String}
    (unvisited : target ∉ visits.map (·.table)) : wayBack visits target = [target] := by
  induction visits with
  | nil => rfl
  | cons v earlier ih =>
    rw [List.map_cons, List.mem_cons, not_or] at unvisited
    rw [wayBack, if_neg (Ne.symm unvisited.1), ih unvisited.2]

end Search

namespace JoinGraph

variable {g : JoinGraph} {source : String}

/-! ## Searches end -/

/-- Visits go on as long as one waits, and are these in the end. -/
inductive RunsTo (g : JoinGraph) (visits : List Visit) : (waiting done : List Visit) → Prop
  | finished : RunsTo g visits [] visits
  | visit {v : Visit} {waiting done : List Visit}
      (rest : RunsTo g visits (waiting ++ g.nextVisits v (v :: waiting ++ done)) (v :: done)) :
      RunsTo g visits (v :: waiting) done

theorem RunsTo.unique {visits visits' waiting done : List Visit} (h : g.RunsTo visits waiting done)
    (h' : g.RunsTo visits' waiting done) : visits = visits' := by
  induction h with
  | finished =>
    cases h'
    rfl
  | visit _ ih =>
    cases h' with
    | visit rest' => exact ih rest'

/-- With a step for every table, nothing is left to visit. -/
theorem Searching.runsTo_visitAll (wf : g.WellFormed) (known : source ∈ g.tables) {steps : Nat}
    {waiting done : List Visit} (h : g.Searching source waiting done)
    (enough : g.tableCount ≤ steps + done.length) :
    g.RunsTo (g.visitAll steps waiting done) waiting done := by
  induction steps generalizing waiting done with
  | zero =>
    obtain rfl := h.waiting_eq_nil wf known (by omega)
    exact .finished
  | succ steps ih =>
    cases waiting with
    | nil => exact .finished
    | cons v waiting => exact .visit (ih (h.step wf) (by rw [List.length_cons]; omega))

theorem runsTo_search_iff (wf : g.WellFormed) (known : source ∈ g.tables) {visits : List Visit} :
    g.RunsTo visits [⟨source, 0, none⟩] [] ↔ visits = (g.search source).visits := by
  have ends := (searching_start g source).runsTo_visitAll wf known (Nat.le_refl g.tableCount)
  exact ⟨fun other => other.unique ends, fun same => same ▸ ends⟩

/-! ## Ways back end -/

/-- A visit that came from a table follows the one to that table. -/
theorem Trail.exists_visit_before {visits : List Visit} (h : g.Trail source visits) {v : Visit}
    (mem : v ∈ visits) {earlier : String} (reached : v.before = some earlier) :
    ∃ u ∈ visits, u.table = earlier ∧ v.hops = u.hops + 1 ∧ v.table ∈ g.neighbors earlier := by
  induction h with
  | nil => cases mem
  | @cons w visits follows _ _ ih =>
    rcases List.mem_cons.1 mem with rfl | mem
    · cases follows with
      | start => cases reached
      | @step u table visited linked =>
        obtain rfl := Option.some.inj reached
        exact ⟨u, List.mem_cons_of_mem _ visited, rfl, rfl, linked⟩
    · obtain ⟨u, visited, rest⟩ := ih mem
      exact ⟨u, List.mem_cons_of_mem _ visited, rest⟩

/-- The table before another is linked to it and one link nearer. -/
theorem nearer_of_before? (wf : g.WellFormed) {target earlier : String}
    (h : (g.search source).before? target = some earlier) :
    target ∈ g.neighbors earlier ∧
      ∃ n, (g.search source).hops? earlier = some n ∧ (g.search source).hops? target = some (n + 1) := by
  have trail := trail_search wf source
  obtain ⟨v, found, reached⟩ := Option.bind_eq_some_iff.1 h
  have visited := List.mem_of_find?_eq_some found
  have here : v.table = target := by simpa using List.find?_some found
  obtain ⟨u, mem, rfl, hops, linked⟩ := trail.exists_visit_before visited reached
  refine ⟨here ▸ linked, u.hops, ?_, ?_⟩
  · rw [Search.hops?, Search.find?_visit trail.nodup mem]
    rfl
  · rw [Search.hops?, found, Option.map_some, hops]

/-- Along the visits of a trail the way back goes as it goes along the search that it is part of. -/
theorem Trail.retraces {r : Search} (nodup : (r.visits.map (·.table)).Nodup) {visits : List Visit}
    (h : g.Trail source visits) (part : visits ⊆ r.visits) {target : String}
    (mem : target ∈ visits.map (·.table)) : r.Retraces target (Search.wayBack visits target) := by
  -- A way back runs through earlier visits alone, so the induction is on the visits and not on the way.
  induction h generalizing target with
  | nil => cases mem
  | @cons v earlier follows _ _ ih =>
    have part' : earlier ⊆ r.visits := List.subset_of_cons_subset part
    by_cases here : v.table = target
    · subst here
      have found := Search.find?_visit nodup (part List.mem_cons_self)
      cases follows with
      | start =>
        have first : r.before? source = none := by
          rw [Search.before?, found]
          rfl
        simpa [Search.wayBack] using Search.Retraces.source first
      | @step u table visited _ =>
        have reached : r.before? table = some u.table := by
          rw [Search.before?, found]
          rfl
        simpa [Search.wayBack] using Search.Retraces.back reached (ih part' (List.mem_map_of_mem visited))
    · rw [Search.wayBack, if_neg here]
      exact ih part' ((List.mem_cons.1 mem).resolve_left (Ne.symm here))

theorem retraces_search_iff (wf : g.WellFormed) {target : String} {way : List String} :
    (g.search source).Retraces target way ↔ way = ((g.search source).route target).reverse := by
  have trail := trail_search wf source
  have ends : (g.search source).Retraces target (Search.wayBack (g.search source).visits target) := by
    by_cases visited : target ∈ (g.search source).visits.map (·.table)
    · exact trail.retraces trail.nodup (List.Subset.refl _) visited
    · have first : (g.search source).before? target = none := by
        have not_found : (g.search source).visits.find? (·.table = target) = none :=
          List.find?_eq_none.2 fun v mem => by simpa using fun here => visited (List.mem_map.2 ⟨v, mem, here⟩)
        rw [Search.before?, not_found]
        rfl
      rw [Search.wayBack_of_not_mem visited]
      exact .source first
  rw [Search.route, List.reverse_reverse]
  exact ⟨fun other => other.unique ends, fun same => same ▸ ends⟩

/-! ## What a search knows -/

/-- A search went on until nothing waited, knows how far every table is and the table before it on a shortest
way, and finds these ways. -/
structure KnowsWays (g : JoinGraph) (source : String) (r : Search) : Prop where
  /-- Visits that start at the source end, and these are they. -/
  ends : ∀ visits, g.RunsTo visits [⟨source, 0, none⟩] [] ↔ visits = r.visits
  hops : ∀ target n, r.hops? target = some n ↔ g.Distance source target n
  unreached : ∀ target, r.hops? target = none ↔ ¬ g.Reaches source target
  /-- A table comes after one that is nearer, so that no way leads in a circle. -/
  nearer : ∀ target earlier, r.before? target = some earlier → target ∈ g.neighbors earlier ∧
    ∃ n, r.hops? earlier = some n ∧ r.hops? target = some (n + 1)
  /-- Going back from a table ends, and gives its route from the end. -/
  retraces : ∀ target way, r.Retraces target way ↔ way = (r.route target).reverse
  route : ∀ target n, r.hops? target = some n →
    g.IsRoute source target (r.route target) ∧ (r.route target).length = n + 1

theorem knowsWays_search (wf : g.WellFormed) (known : source ∈ g.tables) :
    g.KnowsWays source (g.search source) where
  ends _ := runsTo_search_iff wf known
  hops _ _ := hops?_eq_some_iff wf known
  unreached target := by
    rw [← exists_hops_iff wf known, ← Option.isSome_iff_exists, Bool.not_eq_true, Option.isSome_eq_false_iff,
      Option.isNone_iff_eq_none]
  nearer _ _ := nearer_of_before? wf
  retraces _ _ := retraces_search_iff wf
  route _ _ found := ⟨isRoute_of_hops? wf found, length_route wf found⟩

theorem hops?_comm (wf : g.WellFormed) {a b : String} (ha : a ∈ g.tables) (hb : b ∈ g.tables) :
    (g.search a).hops? b = (g.search b).hops? a := by
  refine Option.ext fun n => ?_
  rw [hops?_eq_some_iff wf ha, hops?_eq_some_iff wf hb]
  exact ⟨.symm wf, .symm wf⟩

/-- In every graph that links were offered to, a search from any of its tables knows the shortest ways, and two
tables are as far from each other whichever one it starts at. -/
theorem searches_know_shortest_ways (offered : List Link) {source : String}
    (known : source ∈ (offered.foldl offer empty).tables) :
    (offered.foldl offer empty).KnowsWays source ((offered.foldl offer empty).search source) ∧
      ∀ target ∈ (offered.foldl offer empty).tables,
        ((offered.foldl offer empty).search source).hops? target =
          ((offered.foldl offer empty).search target).hops? source := by
  have wf := wellFormed_of_build (foldlM_add_taken empty offered)
  exact ⟨knowsWays_search wf known, fun _ known' => hops?_comm wf known known'⟩

/-- The links of the school and more that are offered: one of a table to itself, a second way to the countries,
rooms, which are apart, and one that is known already. -/
def schoolOffers : List Link :=
  schoolLinks ++ [⟨"fact", "fact", ["id"], ["id"]⟩, ⟨"campus", "country", ["country_id"], ["id"]⟩,
    ⟨"room", "building", ["building_id"], ["id"]⟩, ⟨"term", "fact", ["id"], ["term_id"]⟩]

/-- From the country to the term are three links, over students or over a campus. -/
theorem school_ways_known :
    let g := schoolOffers.foldl offer empty
    "country" ∈ g.tables ∧ g.KnowsWays "country" (g.search "country") ∧
      (g.search "country").route "term" = ["country", "student", "fact", "term"] ∧
      g.Distance "country" "term" 3 ∧ (g.search "term").hops? "country" = some 3 ∧
      ¬ g.Reaches "country" "room" := by
  intro g
  have known : "country" ∈ g.tables := by decide +kernel
  have far : (g.search "country").hops? "term" = some 3 := by decide +kernel
  have apart : (g.search "country").hops? "room" = none := by decide +kernel
  obtain ⟨knows, symmetric⟩ := searches_know_shortest_ways schoolOffers known
  refine ⟨known, knows, by decide +kernel, (knows.hops _ _).1 far, ?_, (knows.unreached _).1 apart⟩
  rw [← symmetric "term" (by decide +kernel)]
  exact far

end JoinGraph

end Joinery
