import Joinery.Proofs.Compile.Names
import Joinery.Proofs.Graph.Resolve

/-!
# Tables that nobody asked for

A table that a statement takes rows from although nothing of it was asked for stands between others: the
path joins it by two edges at least, and each of these is the condition of a join, unless it joins tables
that are there already and is left out (`compile_extra_table_leads_on`). Where two ways of one length lead
to a table, the path may go there by one way and come back by the other. It then has a cycle, and the
table on the way back is named by one join only (`two_ways_leave_dead_end`).
-/

namespace Joinery

open Sql Assembly

/-! ## Conditions of a statement -/

/-- An expression reads a column of a table. -/
def Sql.Expr.names (e : Expr) (table : String) : Bool :=
  e.columnsRead.any (·.1 = some table)

/-- The conditions of the joins of a source that name a table, in order. -/
def Sql.Source.conditionsOn (s : Source) (table : String) : List Expr :=
  (s.joinScopes.map (·.condition)).filter (·.names table)

/-- The condition of a usable link names the tables of the link. -/
theorem Link.Usable.names_joinExpr {l : Link} (h : l.Usable) (table : String) :
    l.joinExpr.names table = l.edge.touches table := by
  rw [Bool.eq_iff_iff, JoinEdge.touches_iff, Expr.names, List.any_eq_true, columnsRead_joinExpr]
  constructor
  · rintro ⟨c, mem, own⟩
    obtain ⟨p, -, hc⟩ := List.mem_flatMap.1 mem
    rcases List.mem_pair.1 hc with rfl | rfl
    · exact .inl (Option.some.inj (of_decide_eq_true own))
    · exact .inr (Option.some.inj (of_decide_eq_true own))
  · intro touches
    have some_predicate : l.predicates ≠ [] := fun none_left =>
      Link.equations_ne_nil h.columns_ne_nil h.length_eq (by rw [equations, none_left]; rfl)
    obtain ⟨p, hp⟩ := List.exists_mem_of_ne_nil _ some_predicate
    rcases touches with rfl | rfl
    · exact ⟨(some l.leftTable, p.1), List.mem_flatMap.2 ⟨p, hp, by simp⟩, by simp [Link.edge]⟩
    · exact ⟨(some l.rightTable, p.2), List.mem_flatMap.2 ⟨p, hp, by simp⟩, by simp [Link.edge]⟩

theorem map_condition_chainFrom {source : String → Source} (plain : ∀ t, (source t).joinScopes = [])
    (chain : JoinChain) (es : List (Link × String)) :
    (chainFrom source chain es).joinScopes.map (·.condition) =
      chain.joinScopes.map (·.condition) ++ es.map (·.1.joinExpr) := by
  induction es generalizing chain with
  | nil => exact (List.append_nil _).symm
  | cons e es ih =>
    rw [chainFrom, List.foldl_cons, ← chainFrom, ih, JoinChain.joinScopes, plain]
    simp

section LaidOut

variable {d : Dialect} {schema : Option String} {selection : Selection} {joins : List Link}
  {filter : Option String} {y : Layout} {inner : String → TableQuery} {a : Assembled}

/-- The conditions of a source are those of the links that bring in a table. -/
theorem Assembled.LaidOut.map_condition_source
    (h : a.LaidOut d schema selection joins filter y inner) :
    (y.source fun t => (inner t).source schema).joinScopes.map (·.condition) =
      (introducing [] joins).map (·.joinExpr) := by
  rw [← h.entered, List.map_map]
  unfold Layout.source
  split_ifs with single
  · rw [single]
    rfl
  · exact map_condition_chainFrom (fun _ => rfl) _ y.joins

/-- The conditions that name a table are those of its links among the ones that bring in a table. -/
theorem Assembled.LaidOut.conditionsOn_source
    (h : a.LaidOut d schema selection joins filter y inner) (usable : ∀ l ∈ joins, l.Usable)
    (table : String) :
    (y.source fun t => (inner t).source schema).conditionsOn table =
      ((introducing [] joins).filter (·.edge.touches table)).map (·.joinExpr) := by
  have names : ∀ l ∈ introducing [] joins, l.joinExpr.names table = l.edge.touches table := by
    rw [← h.entered, List.forall_mem_map]
    exact fun e mem => (usable _ (h.mem e mem)).names_joinExpr table
  rw [Source.conditionsOn, h.map_condition_source, List.filter_map]
  exact congrArg _ (List.filter_congr names)

end LaidOut

/-! ## Edges of a table that nobody asked for -/

/-- The first link of a table that is not there brings one in. -/
theorem exists_introducing_of_touches {seen : List String} {joins : List Link} {l : Link}
    {table : String} (new : table ∉ seen) (mem : l ∈ joins) (touches : l.edge.touches table) :
    ∃ m ∈ introducing seen joins, m.edge.touches table := by
  have some_link : (joins.find? (·.edge.touches table)).isSome := List.find?_isSome.2 ⟨l, mem, touches⟩
  obtain ⟨m, found⟩ := Option.isSome_iff_exists.1 some_link
  obtain ⟨touches, before, after, rfl, unnamed⟩ := List.find?_eq_some_iff_append.1 found
  have unnamed : ∀ k ∈ before, ¬ k.edge.touches table := fun k hk => by simpa using unnamed k hk
  exact ⟨m, mem_introducing_append_cons before ⟨table, touches, new, unnamed⟩, touches⟩

theorem two_le_length_filter {α : Type} {p : α → Bool} {l : List α} {a b : α} (ha : a ∈ l)
    (hb : b ∈ l) (pa : p a) (pb : p b) (ne : a ≠ b) : 2 ≤ (l.filter p).length := by
  have pair : [a, b].Nodup := by simp [ne]
  refine pair.length_le_of_subset fun x hx => ?_
  rcases List.mem_pair.1 hx with rfl | rfl
  · exact List.mem_filter.2 ⟨ha, pa⟩
  · exact List.mem_filter.2 ⟨hb, pb⟩

/-- A table leads on to others: it has two of the links that are joined or more, and those of them that
bring in a table are the conditions that name it. -/
structure LeadsOn (joins : List Link) (source : Source) (table : String) : Prop where
  linked : 2 ≤ (joins.filter (·.edge.touches table)).length
  conditions : source.conditionsOn table =
    ((introducing [] joins).filter (·.edge.touches table)).map (·.joinExpr)
  joined : source.conditionsOn table ≠ []
  /-- If no link of the table is left out, two conditions or more name it. -/
  kept : (∀ l ∈ joins, l.edge.touches table → l ∈ introducing [] joins) →
    2 ≤ (source.conditionsOn table).length

variable {target : Target} {links : List Link} {r : QueryRequest}

namespace Stages

/-- Two different edges of the path join a table that nobody asked for. -/
theorem exists_edges_of_extra (c : Stages target links r) {table : String}
    (there : table ∈ c.assembled.tables) (extra : table ∉ c.selection.requiredTables) :
    ∃ l ∈ c.joins, ∃ m ∈ c.joins, l ≠ m ∧ l.edge.touches table ∧ m.edge.touches table := by
  have wf := JoinGraph.wellFormed_of_build c.built
  have edges : c.joins.map (·.edge) = c.path.edges := wf.map_edge_plan c.planned
  obtain ⟨-, -, tables, _, _, tables_ok, -, -, made⟩ := assemble_eq_ok_iff.1 c.assembled_ok
  obtain ⟨-, ⟨-, only, selected, rfl⟩ | ⟨some_join, -, rfl⟩⟩ := tablesOf_eq_ok_iff.1 tables_ok
  · -- A single table was asked for.
    rw [made, List.mem_singleton] at there
    refine absurd ?_ extra
    rw [there, Selection.requiredTables, selected]
    exact List.mem_singleton_self _
  · have two : 2 ≤ c.selection.requiredTables.eraseDups.length := by
      by_contra few
      have no_path := JoinGraph.resolve_of_few (g := c.graph) (Nat.not_le.1 few)
      have no_edges : c.path = {} := Except.ok.inj (c.resolved.symm.trans no_path)
      rw [no_edges] at edges
      exact some_join (List.map_eq_nil_iff.1 edges)
    rw [made] at there
    obtain ⟨l, hl, touches⟩ := mem_joinedTables_iff.1 there
    have spans := JoinGraph.spans_of_resolve wf c.resolved two
    have touched : c.path.hasTable table :=
      List.any_eq_true.2 ⟨l.edge, edges ▸ List.mem_map_of_mem hl, touches⟩
    obtain ⟨e, he, f, hf, ne, touches_e, touches_f⟩ := spans.leads_on table touched extra
    rw [← edges] at he hf
    obtain ⟨l, hl, rfl⟩ := List.mem_map.1 he
    obtain ⟨m, hm, rfl⟩ := List.mem_map.1 hf
    exact ⟨l, hl, m, hm, fun same => ne (congrArg Link.edge same), touches_e, touches_f⟩

theorem leadsOn (c : Stages target links r) {y : Layout} {inner : String → TableQuery}
    (laid : c.assembled.LaidOut target.dialect (r.schema <|> target.schema) c.selection c.joins
      (c.filter.map (·.text)) y inner)
    {table : String} (there : table ∈ y.tables) (extra : table ∉ c.selection.requiredTables) :
    LeadsOn c.joins (y.source fun t => (inner t).source (r.schema <|> target.schema)) table := by
  obtain ⟨l, hl, m, hm, ne, touches_l, touches_m⟩ :=
    c.exists_edges_of_extra (laid.tables ▸ there) extra
  have conditions := laid.conditionsOn_source (fun l hl => c.usable hl) table
  refine ⟨two_le_length_filter hl hm touches_l touches_m ne, conditions, ?_, fun kept => ?_⟩
  · obtain ⟨k, hk, touches⟩ := exists_introducing_of_touches List.not_mem_nil hl touches_l
    rw [conditions]
    exact List.ne_nil_of_mem (List.mem_map_of_mem (List.mem_filter.2 ⟨hk, touches⟩))
  · rw [conditions, List.length_map]
    exact two_le_length_filter (kept l hl touches_l) (kept m hm touches_m) touches_l touches_m ne

end Stages

/-- A table of a statement that nobody asked for leads on to others. Two joins or more name it, unless
the path joins it to a table that is there already. -/
theorem compile_extra_table_leads_on {answer : Answer}
    (answered : compile target links r = .ok answer) :
    ∃ assembled source filter selection graph steps,
      compileQuery target links r = .ok (assembled, answer.path) ∧
      answer.sql = assembled.query.toSql target.dialect ∧
      assembled.query.source = some source ∧
      FilterExpr.ofText target.dialect r.conditionData = .ok filter ∧
      Selection.ofRequest r filter = .ok selection ∧
      JoinGraph.build links = .ok graph ∧ graph.plan answer.path = .ok steps ∧
      ∀ t ∈ source.derivedTables, t.name ∉ selection.requiredTables →
        LeadsOn (steps.map (·.condition)) source t.name := by
  obtain ⟨c, rfl⟩ := compile_eq_ok_iff.1 answered
  obtain ⟨y, inner, laid⟩ := c.exists_layout
  refine ⟨c.assembled, y.source fun t => (inner t).source (r.schema <|> target.schema), c.filter,
    c.selection, c.graph, c.steps, compileQuery_eq_ok_iff.2 ⟨c, rfl, rfl⟩, rfl, ?_, c.filter_ok,
    c.selected, c.built, c.planned, fun t mem extra => c.leadsOn laid ?_ extra⟩
  · rw [laid.query]
    rfl
  · rw [← laid.map_name fun t mem => mem, ← Assembled.LaidOut.derivedTables_source]
    exact List.mem_map_of_mem mem

/-! ## Two ways to a city -/

/-- Students were born in a city and live in one, so two ways lead from a student to a city. Exams and
library cards are of students. -/
def campusLinks : List Link :=
  [⟨"grade", "exam", ["exam_id"], ["id"]⟩, ⟨"exam", "student", ["student_id"], ["id"]⟩,
    ⟨"student", "birth", ["id"], ["student_id"]⟩, ⟨"city", "home", ["id"], ["city_id"]⟩,
    ⟨"student", "home", ["id"], ["student_id"]⟩, ⟨"birth", "city", ["city_id"], ["id"]⟩,
    ⟨"student", "card", ["card_id"], ["id"]⟩, ⟨"card", "loan", ["id"], ["card_id"]⟩]

def gradesByCity : QueryRequest where
  dimensionData := [⟨"grade", "mark", ""⟩, ⟨"city", "name", ""⟩, ⟨"loan", "title", ""⟩]

/-- The path goes to the city over the birth and comes back over the home. -/
theorem compileQuery_gradesByCity :
    ∃ assembled path source, compileQuery {} campusLinks gradesByCity = .ok (assembled, path) ∧
      assembled.query.source = some source ∧
      path.edges = [⟨"exam", "grade"⟩, ⟨"exam", "student"⟩, ⟨"birth", "student"⟩,
        ⟨"birth", "city"⟩, ⟨"city", "home"⟩, ⟨"home", "student"⟩, ⟨"card", "student"⟩,
        ⟨"card", "loan"⟩] ∧
      source.derivedTables.map (·.name) =
        ["exam", "grade", "student", "birth", "city", "home", "card", "loan"] ∧
      (source.conditionsOn "home").length = 1 := by
  have answered : (compileQuery {} campusLinks gradesByCity).map (fun made =>
      (made.2.edges, made.1.query.source.map fun source =>
        (source.derivedTables.map (·.name), (source.conditionsOn "home").length))) =
      .ok ([⟨"exam", "grade"⟩, ⟨"exam", "student"⟩, ⟨"birth", "student"⟩, ⟨"birth", "city"⟩,
        ⟨"city", "home"⟩, ⟨"home", "student"⟩, ⟨"card", "student"⟩, ⟨"card", "loan"⟩],
        some (["exam", "grade", "student", "birth", "city", "home", "card", "loan"], 1)) := by
    decide +kernel
  obtain ⟨⟨assembled, path⟩, made, shown⟩ := map_eq_ok_iff.1 answered
  obtain ⟨edges, shown⟩ := Prod.mk.inj shown
  obtain ⟨source, from_eq, shown⟩ := Option.map_eq_some_iff.1 shown
  obtain ⟨names, one⟩ := Prod.mk.inj shown
  exact ⟨assembled, path, source, made, from_eq, edges, names, one⟩

theorem requiredTables_gradesByCity :
    ∃ selection, FilterExpr.ofText .postgres gradesByCity.conditionData = .ok none ∧
      Selection.ofRequest gradesByCity none = .ok selection ∧
      selection.requiredTables = ["grade", "city", "loan"] := by
  have filter_ok : FilterExpr.ofText .postgres gradesByCity.conditionData = .ok none := by
    decide +kernel
  have selected : (Selection.ofRequest gradesByCity none).map (·.requiredTables) =
      .ok ["grade", "city", "loan"] := by decide +kernel
  obtain ⟨selection, selected, required⟩ := map_eq_ok_iff.1 selected
  exact ⟨selection, filter_ok, selected, required⟩

/-- The path joins homes to the city and to the student, as it does with births. -/
theorem campus_home_leads_on :
    ∃ assembled path source graph steps,
      compileQuery {} campusLinks gradesByCity = .ok (assembled, path) ∧
      assembled.query.source = some source ∧ JoinGraph.build campusLinks = .ok graph ∧
      graph.plan path = .ok steps ∧
      LeadsOn (steps.map (·.condition)) source "home" ∧
      LeadsOn (steps.map (·.condition)) source "birth" := by
  obtain ⟨assembled, path, source, made, from_eq, -, names, -⟩ := compileQuery_gradesByCity
  obtain ⟨selection, filter_ok, selected, required⟩ := requiredTables_gradesByCity
  have answered : compile {} campusLinks gradesByCity =
      .ok ⟨assembled.query.toSql .postgres, assembled.columns, path, .postgres⟩ := by
    rw [compile, made]
    rfl
  obtain ⟨assembled', source', filter', selection', graph, steps, made', -, from_eq', filter_ok',
    selected', built, planned, leads_on⟩ := compile_extra_table_leads_on answered
  cases made.symm.trans made'
  cases from_eq.symm.trans from_eq'
  cases filter_ok.symm.trans filter_ok'
  cases selected.symm.trans selected'
  have extra : ∀ name ∈ source.derivedTables.map (·.name), name ∉ selection.requiredTables →
      LeadsOn (steps.map (·.condition)) source name := by
    rw [List.forall_mem_map]
    exact leads_on
  rw [names, required] at extra
  exact ⟨assembled, path, source, graph, steps, made, from_eq, built, planned,
    extra "home" (by decide) (by decide), extra "birth" (by decide) (by decide)⟩

/-- Two ways of one length lead to the city. The link that leads back joins tables that are there, so one
condition alone names the homes that nobody asked for. -/
theorem two_ways_leave_dead_end :
    ∃ assembled path source filter selection,
      compileQuery {} campusLinks gradesByCity = .ok (assembled, path) ∧
      assembled.query.source = some source ∧
      FilterExpr.ofText .postgres gradesByCity.conditionData = .ok filter ∧
      Selection.ofRequest gradesByCity filter = .ok selection ∧
      "home" ∈ source.derivedTables.map (·.name) ∧ "home" ∉ selection.requiredTables ∧
      (source.conditionsOn "home").length = 1 := by
  obtain ⟨assembled, path, source, made, from_eq, -, names, one⟩ := compileQuery_gradesByCity
  obtain ⟨selection, filter_ok, selected, required⟩ := requiredTables_gradesByCity
  exact ⟨assembled, path, source, none, selection, made, from_eq, filter_ok, selected,
    by rw [names]; decide, by rw [required]; decide, one⟩

end Joinery
