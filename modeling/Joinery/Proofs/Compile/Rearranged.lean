import Joinery.Proofs.Compile.Errors
import Joinery.Proofs.Graph.Region

/-!
# Catalogs that come to the same

From which of its tables a catalog sees a link does not matter, nor do links between tables that nothing
connects to the ones that are asked for. Two such catalogs are `Rearranged`. Their graphs have the same
links, in the same order, at every table that is connected to a required one
(`JoinGraph.agreeOn_of_rearranged`), so they give the same paths, conditions and
answers (`rearranged_same_answers`).
-/

namespace Joinery

/-- The second catalog has the links of the first, in the same order and each from either side, and
between them others whose tables are foreign. -/
inductive Rearranged (foreign : String → Prop) : List Link → List Link → Prop
  | nil : Rearranged foreign [] []
  | keep {l : Link} {ls ls' : List Link} (rest : Rearranged foreign ls ls') :
      Rearranged foreign (l :: ls) (l :: ls')
  | turn {l : Link} {ls ls' : List Link} (rest : Rearranged foreign ls ls') :
      Rearranged foreign (l :: ls) (l.reversed :: ls')
  | insert {l : Link} {ls ls' : List Link} (left : foreign l.leftTable)
      (right : foreign l.rightTable) (rest : Rearranged foreign ls ls') :
      Rearranged foreign ls (l :: ls')

namespace JoinGraph

variable {g g' g₁ g₁' : JoinGraph} {l : Link} {table : String}

/-! ## Adding links -/

theorem SameAt.add (h : g.SameAt g' table) (added : g.add l = .ok g₁) (added' : g'.add l = .ok g₁') :
    g₁.SameAt g₁' table where
  known := by rw [mem_tables_of_add added, mem_tables_of_add added', h.known]
  links := by rw [links_of_add added, links_of_add added', h.links]

/-- A link is kept at both of its tables, each time from the side of the table. -/
theorem SameAt.add_reversed (h : g.SameAt g' table) (added : g.add l = .ok g₁)
    (added' : g'.add l.reversed = .ok g₁') : g₁.SameAt g₁' table where
  known := by
    rw [mem_tables_of_add added, mem_tables_of_add added', h.known]
    exact or_congr_right or_comm
  links := by
    have ne := (add_eq_ok_iff.1 added).1.tables_ne
    rw [links_of_add added, links_of_add added', h.links]
    change _ = if table = l.rightTable then setLink l.reversed (g'.links table)
      else if table = l.leftTable then setLink l (g'.links table) else g'.links table
    by_cases left : table = l.leftTable
    · rw [if_pos left, if_neg (left ▸ ne), if_pos left]
    · rw [if_neg left, if_neg left]

theorem SameAt.add_foreign (h : g.SameAt g' table) (added' : g'.add l = .ok g₁')
    (left : table ≠ l.leftTable) (right : table ≠ l.rightTable) : g.SameAt g₁' table where
  known := by
    rw [mem_tables_of_add added', h.known]
    simp [left, right]
  links := by rw [links_of_add added', if_neg left, if_neg right, h.links]

/-- Rearranged catalogs build graphs that say the same about every table that is not foreign. -/
theorem sameAt_of_rearranged {foreign : String → Prop} {ls ls' : List Link}
    (rearranged : Rearranged foreign ls ls') (own : ¬ foreign table) (start : g.SameAt g' table)
    (built : ls.foldlM JoinGraph.add g = .ok g₁) (built' : ls'.foldlM JoinGraph.add g' = .ok g₁') :
    g₁.SameAt g₁' table := by
  induction rearranged generalizing g g' with
  | nil =>
    cases built
    cases built'
    exact start
  | keep _ ih =>
    rw [List.foldlM_cons] at built built'
    obtain ⟨_, first, rest⟩ := bind_eq_ok_iff.1 built
    obtain ⟨_, first', rest'⟩ := bind_eq_ok_iff.1 built'
    exact ih (start.add first first') rest rest'
  | turn _ ih =>
    rw [List.foldlM_cons] at built built'
    obtain ⟨_, first, rest⟩ := bind_eq_ok_iff.1 built
    obtain ⟨_, first', rest'⟩ := bind_eq_ok_iff.1 built'
    exact ih (start.add_reversed first first') rest rest'
  | insert left right _ ih =>
    rw [List.foldlM_cons] at built'
    obtain ⟨_, first', rest'⟩ := bind_eq_ok_iff.1 built'
    exact ih (start.add_foreign first' (fun e => own (e ▸ left)) fun e => own (e ▸ right)) built rest'

/-! ## The pieces of the required tables -/

/-- The tables that some required table reaches. -/
def Asked (g : JoinGraph) (required : List String) (table : String) : Prop :=
  ∃ name ∈ required, g.Reaches name table

theorem agreeOn_of_rearranged {required : List String} {ls ls' : List Link}
    (built : build ls = .ok g) (built' : build ls' = .ok g')
    (rearranged : Rearranged (fun table => ¬ g'.Asked required table) ls ls') :
    g.AgreeOn (g'.Asked required) g' := by
  have same : ∀ table, g'.Asked required table → g.SameAt g' table := fun _ asked =>
    sameAt_of_rearranged rearranged (not_not_intro asked) ⟨.rfl, rfl⟩ built built'
  refine ⟨same, fun table asked next linked => ?_⟩
  obtain ⟨name, mem, reached⟩ := asked
  exact ⟨name, mem, reached.tail ((same table ⟨name, mem, reached⟩).neighbors ▸ linked)⟩

end JoinGraph

open JoinGraph

/-- Whatever is made of the request, `required` are the tables that have to be joined. -/
def QueryRequest.Requires (r : QueryRequest) (d : Dialect) (required : List String) : Prop :=
  ∀ filter selection, FilterExpr.ofText d r.conditionData = .ok filter →
    Selection.ofRequest r filter = .ok selection → selection.requiredTables = required

variable {links links' : List Link} {g g' : JoinGraph} {required : List String}

/-- A compilation asks its graph for a path and for the joins along it, and for nothing else. -/
theorem compile_eq_of_agreeOn {region : String → Prop} (built : build links = .ok g)
    (built' : build links' = .ok g') (agree : g.AgreeOn region g')
    (inside : ∀ name ∈ required, region name) {target : Target} {r : QueryRequest}
    (requires : r.Requires target.dialect required) :
    compile target links r = compile target links' r := by
  have wf := wellFormed_of_build built
  have wf' := wellFormed_of_build built'
  suffices same : compileQuery target links r = compileQuery target links' r by
    rw [compile, compile, same]
  refine bind_congr_ok fun filter filter_ok => bind_congr_ok fun selection selected => ?_
  have tables := requires filter selection (mapError_eq_ok_iff.1 filter_ok)
    (mapError_eq_ok_iff.1 selected)
  rw [built, built', tables]
  change (g.resolve required).mapError CompileError.graph >>= _ =
    (g'.resolve required).mapError CompileError.graph >>= _
  rw [← agree.resolve_eq wf wf' inside]
  refine bind_congr_ok fun path resolved => ?_
  have plans : g.plan path = g'.plan path := agree.plan_eq fun e he => by
    obtain ⟨name, mem, reached⟩ := wf.exists_reaches_of_resolve (mapError_eq_ok_iff.1 resolved) he
    exact (agree.reaches (inside name mem) reached).1
  rw [plans]

/-- Turning links around and adding links between tables that no required table reaches changes neither
the path of the required tables, nor the conditions between tables that they reach, nor the answer to any
request for them. -/
theorem rearranged_same_answers (built : build links = .ok g) (built' : build links' = .ok g')
    (rearranged : Rearranged (fun table => ¬ g'.Asked required table) links links') :
    g.resolve required = g'.resolve required ∧
      (∀ a b, g'.Asked required a → g'.Asked required b → g.condition a b = g'.condition a b) ∧
      ∀ target r, r.Requires target.dialect required →
        compile target links r = compile target links' r := by
  have agree := agreeOn_of_rearranged built built' rearranged
  have inside : ∀ name ∈ required, g'.Asked required name := fun name mem => ⟨name, mem, .refl⟩
  refine ⟨?_, ?_, ?_⟩
  · exact agree.resolve_eq (wellFormed_of_build built) (wellFormed_of_build built') inside
  · exact fun a b asked _ => agree.condition_eq asked b
  · exact fun target r requires => compile_eq_of_agreeOn built built' agree inside requires

/-- The links of the school with students and campuses turned around, and rooms, which are linked to
buildings alone. -/
def schoolWithRooms : List Link :=
  [⟨"room", "building", ["building_id"], ["id"]⟩,
    ⟨"fact", "term", ["term_id"], ["id"]⟩,
    ⟨"student", "fact", ["id"], ["student_id"]⟩,
    ⟨"building", "room", ["main_room"], ["number"]⟩,
    ⟨"student", "country", ["country_id"], ["id"]⟩,
    ⟨"fact", "campus", ["campus_id", "org"], ["id", "org"]⟩]

theorem unitsByYear_requires :
    (unitsByYear "Year").Requires .postgres ["term", "fact", "student"] := by
  have filter_ok : FilterExpr.ofText .postgres "student.gender = 'F'" =
      .ok (some ⟨"student.gender = 'F'", [⟨"student", "gender"⟩]⟩) := by decide +kernel
  have tables : (Selection.ofRequest (unitsByYear "Year")
      (some ⟨"student.gender = 'F'", [⟨"student", "gender"⟩]⟩)).map (·.requiredTables) =
      .ok ["term", "fact", "student"] := by
    decide +kernel
  intro filter selection read selected
  obtain rfl := Except.ok.inj (filter_ok.symm.trans read)
  rw [selected] at tables
  exact Except.ok.inj tables

/-- Rooms make no difference to the units that students took. -/
theorem school_with_rooms_same_answers :
    ∃ g g', build schoolLinks = .ok g ∧ build schoolWithRooms = .ok g' ∧
      Rearranged (fun table => ¬ g'.Asked ["term", "fact", "student"] table) schoolLinks
        schoolWithRooms ∧
      g.tables.head? = some "fact" ∧ g'.tables.head? = some "room" ∧
      g.resolve ["term", "fact", "student"] = g'.resolve ["term", "fact", "student"] ∧
      compile {} schoolLinks (unitsByYear "Year") =
        compile {} schoolWithRooms (unitsByYear "Year") := by
  have found : (build schoolLinks).map (·.tables.head?) = .ok (some "fact") := by
    decide +kernel
  have found' : (build schoolWithRooms).map (fun g' => (g'.tables.head?,
      decide (∀ name ∈ ["term", "fact", "student"], name ∈ g'.tables ∧
        ∀ table ∈ ["room", "building"], (g'.search name).hops? table = none))) =
      .ok (some "room", true) := by
    decide +kernel
  obtain ⟨g, built, first⟩ := map_eq_ok_iff.1 found
  obtain ⟨g', built', found'⟩ := map_eq_ok_iff.1 found'
  obtain ⟨first', far⟩ := Prod.mk.inj found'
  have foreign : ∀ table ∈ ["room", "building"], ¬ g'.Asked ["term", "fact", "student"] table := by
    rintro table mem ⟨name, asked, reached⟩
    obtain ⟨known, far⟩ := of_decide_eq_true far name asked
    obtain ⟨hops, found⟩ := (exists_hops_iff (wellFormed_of_build built') known).2 reached
    exact Option.some_ne_none hops (found.symm.trans (far table mem))
  have room := foreign "room" (by decide)
  have building := foreign "building" (by decide)
  have rearranged : Rearranged (fun table => ¬ g'.Asked ["term", "fact", "student"] table) schoolLinks
      schoolWithRooms :=
    .insert room building (.keep (.turn (.insert building room (.keep (.turn .nil)))))
  obtain ⟨paths, -, answers⟩ := rearranged_same_answers built built' rearranged
  exact ⟨g, g', built, built', rearranged, first, first', paths, answers {} _ unitsByYear_requires⟩

end Joinery
