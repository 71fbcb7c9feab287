import Mathlib.Data.List.Find
import Joinery.Proofs.Graph.Path
import Joinery.Proofs.Graph.Reach

/-!
# When tables can be joined

`JoinGraph.Resolution` says how the resolution of some names ends and which table an error blames. The
distances are found row by row, but if some table is apart from another one, the row of the first name
shows it already, because tables that the first one reaches reach each other.
-/

namespace Joinery

namespace JoinGraph

/-- How the resolution of required names ends. It takes each name once, in first-seen order. -/
structure Resolution (g : JoinGraph) (required : List String) : Prop where
  /-- Fewer than two names need no join, whether they are known or not. -/
  few : required.eraseDups.length < 2 → g.resolve required = .ok {}
  /-- A name is unknown if it is the first one that the graph does not have. -/
  unknown : 2 ≤ required.eraseDups.length → ∀ table,
    g.resolve required = .error (.unknownTable table) ↔
      ∃ before after, required.eraseDups = before ++ table :: after ∧
        (∀ name ∈ before, name ∈ g.tables) ∧ table ∉ g.tables
  /-- Known tables are disconnected if the first one does not reach another, the first such one. -/
  apart : ∀ source target, g.resolve required = .error (.disconnected source target) ↔
    (∀ name ∈ required, name ∈ g.tables) ∧
      ∃ before after, required.eraseDups = source :: before ++ target :: after ∧
        (∀ name ∈ before, g.Reaches source name) ∧ ¬ g.Reaches source target
  /-- All others have a path. -/
  joined : (∃ p, g.resolve required = .ok p) ↔ required.eraseDups.length < 2 ∨
    (∀ name ∈ required, name ∈ g.tables) ∧ ∀ a ∈ required, ∀ b ∈ required, g.Reaches a b
  /-- There is no other error. -/
  blamed : ∀ e, g.resolve required = .error e →
    (∃ table, e = .unknownTable table) ∨ ∃ source target, e = .disconnected source target

variable {g : JoinGraph} {required : List String}

theorem resolve_of_few (few : required.eraseDups.length < 2) : g.resolve required = .ok {} :=
  if_pos few

/-! ## Names that are unknown -/

theorem find?_unknown_congr {g' : JoinGraph} {names : List String}
    (same : ∀ name ∈ names, name ∈ g.tables ↔ name ∈ g'.tables) :
    names.find? (!g.contains ·) = names.find? (!g'.contains ·) := by
  refine List.find?_congr fun name mem => congrArg (!·) ?_
  rw [Bool.eq_iff_iff, contains_eq_true_iff, contains_eq_true_iff, same name mem]

theorem resolve_of_unknown (two : 2 ≤ required.eraseDups.length) {before after : List String}
    {table : String} (names : required.eraseDups = before ++ table :: after)
    (known : ∀ name ∈ before, name ∈ g.tables) (absent : table ∉ g.tables) :
    g.resolve required = .error (.unknownTable table) := by
  have first : required.eraseDups.find? (!g.contains ·) = some table := by
    rw [List.find?_eq_some_iff_append]
    refine ⟨?_, before, after, names, fun name mem => ?_⟩
    · rwa [Bool.not_eq_true', ← Bool.not_eq_true, contains_eq_true_iff]
    · simpa [contains_eq_true_iff] using known name mem
  unfold resolve
  dsimp only
  rw [if_neg (Nat.not_lt.2 two), first]

/-- The path of known tables depends on what the searches from them find. -/
theorem resolve_of_known (two : 2 ≤ required.eraseDups.length)
    (known : ∀ name ∈ required, name ∈ g.tables) :
    g.resolve required = (costMatrix (required.eraseDups.map g.search)).map fun cost =>
      .ofWalk (walkAlong (cost.tour.filterMap ((required.eraseDups.map g.search)[·]?))) := by
  have none_absent : required.eraseDups.find? (!g.contains ·) = none := by
    rw [List.find?_eq_none]
    intro name mem
    simpa [contains_eq_true_iff] using known name (List.mem_eraseDups.1 mem)
  unfold resolve
  dsimp only
  rw [if_neg (Nat.not_lt.2 two), none_absent]
  cases costMatrix (required.eraseDups.map g.search) <;> rfl

/-! ## Tables that are apart -/

theorem costMatrix_of_reached {searches : List Search}
    (reached : ∀ r ∈ searches, ∀ s ∈ searches, ∃ hops, r.hops? s.source = some hops) :
    ∃ cost, costMatrix searches = .ok cost := by
  refine exists_mapM_eq_ok fun r hr => exists_mapM_eq_ok fun s hs => ?_
  obtain ⟨hops, found⟩ := reached r hr s hs
  exact ⟨hops, by rw [found]⟩

/-- The first row fails at the first table that it does not reach. -/
theorem costMatrix_of_apart {r s : Search} {rest before after : List Search}
    (searches : r :: rest = before ++ s :: after)
    (reached : ∀ t ∈ before, ∃ hops, r.hops? t.source = some hops) (apart : r.hops? s.source = none) :
    costMatrix (r :: rest) = .error (.disconnected r.source s.source) := by
  refine mapM_append_cons_eq_error [] (fun t mem => absurd mem List.not_mem_nil) ?_
  rw [searches]
  refine mapM_append_cons_eq_error before (fun t mem => ?_) (by rw [apart])
  obtain ⟨hops, found⟩ := reached t mem
  exact ⟨hops, by rw [found]⟩

theorem resolve_of_apart (wf : g.WellFormed) (known : ∀ name ∈ required, name ∈ g.tables)
    {source target : String} {before after : List String}
    (names : required.eraseDups = source :: before ++ target :: after)
    (reached : ∀ name ∈ before, g.Reaches source name) (apart : ¬ g.Reaches source target) :
    g.resolve required = .error (.disconnected source target) := by
  have two : 2 ≤ required.eraseDups.length := by
    rw [names, List.length_append, List.length_cons, List.length_cons]
    omega
  have source_known : source ∈ g.tables :=
    known source (List.mem_eraseDups.1 (by rw [names]; simp))
  have row : ∀ name ∈ source :: before, ∃ hops, (g.search source).hops? name = some hops := by
    intro name mem
    rw [exists_hops_iff wf source_known]
    rcases List.mem_cons.1 mem with rfl | mem
    · exact .refl
    · exact reached name mem
  have gap : (g.search source).hops? target = none := by
    rw [← exists_hops_iff wf source_known, ← Option.isSome_iff_exists, Bool.not_eq_true,
      Option.isSome_eq_false_iff, Option.isNone_iff_eq_none] at apart
    exact apart
  have failed : costMatrix (required.eraseDups.map g.search) =
      .error (.disconnected source target) := by
    rw [names]
    have split : g.search source :: (before ++ target :: after).map g.search =
        (source :: before).map g.search ++ g.search target :: after.map g.search := by simp
    exact costMatrix_of_apart split (List.forall_mem_map.2 row) gap
  rw [resolve_of_known two known, failed]
  rfl

theorem exists_resolve_of_reached (wf : g.WellFormed) (two : 2 ≤ required.eraseDups.length)
    (known : ∀ name ∈ required, name ∈ g.tables)
    (reached : ∀ a ∈ required, ∀ b ∈ required, g.Reaches a b) : ∃ p, g.resolve required = .ok p := by
  have connected : ∀ r ∈ required.eraseDups.map g.search, ∀ s ∈ required.eraseDups.map g.search,
      ∃ hops, r.hops? s.source = some hops := by
    simp only [List.forall_mem_map, List.mem_eraseDups]
    exact fun a ha b hb => (exists_hops_iff wf (known a ha)).2 (reached a ha b hb)
  obtain ⟨cost, costs⟩ := costMatrix_of_reached connected
  exact ⟨_, by rw [resolve_of_known two known, costs]; rfl⟩

/-! ## All cases -/

/-- The cases in which resolution ends, each with its result. -/
inductive Ending (g : JoinGraph) (required : List String) : Except GraphError JoinPath → Prop
  | few (few : required.eraseDups.length < 2) : Ending g required (.ok {})
  | unknown {before after : List String} {table : String}
      (names : required.eraseDups = before ++ table :: after)
      (known : ∀ name ∈ before, name ∈ g.tables) (absent : table ∉ g.tables) :
      Ending g required (.error (.unknownTable table))
  | apart {before after : List String} {source target : String}
      (known : ∀ name ∈ required, name ∈ g.tables)
      (names : required.eraseDups = source :: before ++ target :: after)
      (reached : ∀ name ∈ before, g.Reaches source name) (apart : ¬ g.Reaches source target) :
      Ending g required (.error (.disconnected source target))
  | joined {p : JoinPath} (known : ∀ name ∈ required, name ∈ g.tables)
      (reached : ∀ a ∈ required, ∀ b ∈ required, g.Reaches a b) : Ending g required (.ok p)

theorem WellFormed.ending (wf : g.WellFormed) (required : List String) :
    g.Ending required (g.resolve required) := by
  classical
  by_cases few : required.eraseDups.length < 2
  · rw [resolve_of_few few]
    exact .few few
  have two := Nat.not_lt.1 few
  cases absent : required.eraseDups.find? (· ∉ g.tables) with
  | some table =>
    obtain ⟨missing, before, after, names, known⟩ := List.find?_eq_some_iff_append.1 absent
    have known : ∀ name ∈ before, name ∈ g.tables := by simpa using known
    have missing : table ∉ g.tables := by simpa using missing
    rw [resolve_of_unknown two names known missing]
    exact .unknown names known missing
  | none =>
    have known : ∀ name ∈ required, name ∈ g.tables := fun name mem => by
      simpa using List.find?_eq_none.1 absent name (List.mem_eraseDups.2 mem)
    cases names : required.eraseDups with
    | nil => exact absurd (by rw [names]; decide) few
    | cons source rest =>
      cases apart : rest.find? (¬ g.Reaches source ·) with
      | some target =>
        obtain ⟨gap, before, after, rfl, reached⟩ := List.find?_eq_some_iff_append.1 apart
        have reached : ∀ name ∈ before, g.Reaches source name := by simpa using reached
        have gap : ¬ g.Reaches source target := by simpa using gap
        rw [resolve_of_apart wf known names reached gap]
        exact .apart known names reached gap
      | none =>
        have from_source : ∀ name ∈ required, g.Reaches source name := by
          intro name mem
          rcases List.mem_cons.1 (names ▸ List.mem_eraseDups.2 mem) with rfl | mem
          · exact .refl
          · simpa using List.find?_eq_none.1 apart name mem
        have reached : ∀ a ∈ required, ∀ b ∈ required, g.Reaches a b := fun a ha b hb =>
          (wf.reaches_comm.1 (from_source a ha)).trans (from_source b hb)
        obtain ⟨p, ended⟩ := exists_resolve_of_reached wf two known reached
        rw [ended]
        exact .joined known reached

/-- The names of a path between two tables or more are known. -/
theorem known_of_resolve (wf : g.WellFormed) {p : JoinPath} (resolved : g.resolve required = .ok p)
    (two : 2 ≤ required.eraseDups.length) : required.eraseDups ⊆ g.tables := by
  have ending := wf.ending required
  rw [resolved] at ending
  cases ending with
  | few few => exact absurd two (Nat.not_le.2 few)
  | joined known => exact fun name mem => known name (List.mem_eraseDups.1 mem)

/-- In a graph that was built from a catalog, names have a path unless one is unknown or apart from the
first, and the error blames the first such name. -/
theorem resolution_of_build {ls : List Link} (built : build ls = .ok g) (required : List String) :
    g.Resolution required := by
  have wf := wellFormed_of_build built
  have ending := wf.ending required
  constructor
  case few => exact resolve_of_few
  case unknown =>
    refine fun two table => ⟨fun ended => ?_, ?_⟩
    · rw [ended] at ending
      cases ending with
      | unknown names known absent => exact ⟨_, _, names, known, absent⟩
    · rintro ⟨before, after, names, known, absent⟩
      exact resolve_of_unknown two names known absent
  case apart =>
    refine fun source target => ⟨fun ended => ?_, ?_⟩
    · rw [ended] at ending
      cases ending with
      | apart known names reached apart => exact ⟨known, _, _, names, reached, apart⟩
    · rintro ⟨known, before, after, names, reached, apart⟩
      exact resolve_of_apart wf known names reached apart
  case joined =>
    constructor
    · rintro ⟨p, ended⟩
      rw [ended] at ending
      cases ending with
      | few few => exact .inl few
      | joined known reached => exact .inr ⟨known, reached⟩
    · rintro (few | ⟨known, reached⟩)
      · exact ⟨_, resolve_of_few few⟩
      · by_cases few : required.eraseDups.length < 2
        · exact ⟨_, resolve_of_few few⟩
        · exact exists_resolve_of_reached wf (Nat.not_lt.1 few) known reached
  case blamed =>
    intro e ended
    rw [ended] at ending
    cases ending with
    | unknown => exact .inl ⟨_, rfl⟩
    | apart => exact .inr ⟨_, _, rfl⟩

/-- Rooms are linked to buildings alone, so the term, which is named first, is blamed with the room. -/
theorem school_apart_from_rooms :
    ∃ g, build (schoolLinks ++ [⟨"room", "building", ["building_id"], ["id"]⟩]) = .ok g ∧
      g.Resolution ["term", "country", "term", "room", "building", "campus"] ∧
      g.resolve ["term", "country", "term", "room", "building", "campus"] =
        .error (.disconnected "term" "room") ∧ ¬ g.Reaches "term" "room" := by
  have found : build (schoolLinks ++ [⟨"room", "building", ["building_id"], ["id"]⟩]) >>=
      (fun g => .ok (g.resolve ["term", "country", "term", "room", "building", "campus"])) =
      .ok (.error (.disconnected "term" "room")) := by
    decide +kernel
  obtain ⟨g, built, ended⟩ := bind_eq_ok_iff.1 found
  have ended := Except.ok.inj ended
  have resolution := resolution_of_build built
    ["term", "country", "term", "room", "building", "campus"]
  obtain ⟨-, before, after, -, -, apart⟩ := (resolution.apart "term" "room").1 ended
  exact ⟨g, built, resolution, ended, apart⟩

end JoinGraph

end Joinery
