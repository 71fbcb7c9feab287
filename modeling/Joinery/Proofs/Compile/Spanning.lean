import Joinery.Proofs.Compile.Stages
import Joinery.Proofs.Sql.Reading

/-!
# Chains that span their tables

The joins of a path may lead back to tables that are there already, but the chain of a statement has no
cycle: it starts with one table, and each join of it attaches one more, by the first of the joins that
names it. `SpanningChain` says so of the chain that some joins make. A join that attaches a table keeps it
(`SpanningChain.attach`), one that leads back changes nothing (`SpanningChain.skip`), so it holds of the
chain of every statement (`chain_spans_tables`).
-/

namespace Joinery

open Sql Assembly

/-! ## Parts of a chain -/

/-- The name of a derived table. -/
def Sql.Source.name? : Source → Option String
  | .derived _ name => some name
  | _ => none

/-- The source that a chain starts with. -/
def Sql.JoinChain.start : JoinChain → Source
  | .base source => source
  | .join chain _ _ => chain.start

/-- The sources that are joined to the first one, each with the condition of its join. -/
def Sql.JoinChain.attached : JoinChain → List (Source × Expr)
  | .base _ => []
  | .join chain source condition => chain.attached ++ [(source, condition)]

/-- A join has one condition for each pair of its columns. -/
theorem Link.conjuncts_joinExpr {l : Link} (ok : checkJoin l = .ok ()) :
    l.joinExpr.conjuncts = l.equations := by
  obtain ⟨ne, length⟩ := checkJoin_eq_ok_iff.1 ok
  have flat : l.equations.flatMap Expr.conjuncts = l.equations := by
    rw [equations, List.flatMap_map]
    exact List.map_eq_flatMap.symm
  rw [joinExpr]
  cases some_equation : l.equations with
  | nil => exact absurd some_equation (equations_ne_nil ne length)
  | cons e es =>
    rw [some_equation, List.flatMap_cons] at flat
    exact (Expr.conjuncts_foldl_conj e es).trans flat

/-! ## Joins that lead on and joins that lead back -/

namespace Assembly

variable {joins : List Link} {l : Link}

/-- The join at a place names a table that no earlier one names. -/
def LeadsTo (joins : List Link) (place : Nat) : Prop :=
  ∃ l, joins[place]? = some l ∧ ¬ (l.leftTable ∈ joinedTables (joins.take place) ∧
    l.rightTable ∈ joinedTables (joins.take place))

theorem LeadsTo.lt {place : Nat} (h : LeadsTo joins place) : place < joins.length := by
  obtain ⟨l, found, -⟩ := h
  exact (List.getElem?_eq_some_iff.1 found).1

theorem leadsTo_concat_of_lt {place : Nat} (inside : place < joins.length) :
    LeadsTo (joins ++ [l]) place ↔ LeadsTo joins place := by
  rw [LeadsTo, LeadsTo, List.getElem?_append_left inside,
    List.take_append_of_le_length (Nat.le_of_lt inside)]

theorem leadsTo_concat_length : LeadsTo (joins ++ [l]) joins.length ↔
    ¬ (l.leftTable ∈ joinedTables joins ∧ l.rightTable ∈ joinedTables joins) := by
  rw [LeadsTo, List.getElem?_concat_length, List.take_left]
  simp

theorem leadsTo_concat_iff {place : Nat} : LeadsTo (joins ++ [l]) place ↔ LeadsTo joins place ∨
    place = joins.length ∧
      ¬ (l.leftTable ∈ joinedTables joins ∧ l.rightTable ∈ joinedTables joins) := by
  rcases lt_trichotomy place joins.length with inside | rfl | outside
  · rw [leadsTo_concat_of_lt inside]
    simp [Nat.ne_of_lt inside]
  · rw [leadsTo_concat_length]
    have not_yet : ¬ LeadsTo joins joins.length := fun h => Nat.lt_irrefl _ h.lt
    simp [not_yet]
  · have not_there : ¬ LeadsTo (joins ++ [l]) place := fun h => by
      have lt := h.lt
      rw [List.length_append, List.length_singleton] at lt
      omega
    have not_yet : ¬ LeadsTo joins place := fun h => Nat.lt_asymm h.lt outside
    simp [not_there, not_yet, Nat.ne_of_gt outside]

/-- Some tables with one more behind them, unless it is one of them. -/
def withTable (tables : List String) (table : String) : List String :=
  if table ∈ tables then tables else tables ++ [table]

theorem withTable_of_mem {tables : List String} {table : String} (there : table ∈ tables) :
    withTable tables table = tables :=
  if_pos there

theorem withTable_of_not_mem {tables : List String} {table : String} (new : table ∉ tables) :
    withTable tables table = tables ++ [table] :=
  if_neg new

theorem joinedTables_concat (joins : List Link) (l : Link) : joinedTables (joins ++ [l]) =
    withTable (withTable (joinedTables joins) l.leftTable) l.rightTable := by
  have next : ∀ (names : List String) (table : String),
      (names ++ [table]).eraseDups = withTable names.eraseDups table := eraseDups_concat_eq
  rw [joinedTables, List.flatMap_append, List.flatMap_singleton, List.append_cons, next, next,
    joinedTables]

end Assembly

/-! ## Spanning chains -/

/-- A join attaches a table to others: it is the first one that names the table, it names one of the
others as well, and its columns are compared pair by pair. -/
structure Attaches (earlier : List Link) (there : List String) (l : Link) (table : String) (on : Expr) :
    Prop where
  new : table ∉ there
  first : ∀ m ∈ earlier, m.edge.touches table = false
  ends : l.leftTable = table ∧ l.rightTable ∈ there ∨ l.rightTable = table ∧ l.leftTable ∈ there
  conjuncts : on.conjuncts = l.equations
  columns : l.leftColumns ≠ [] ∧ l.leftColumns.length = l.rightColumns.length

/-- A chain spans the tables of some joins: the joins at some places attach them one by one. -/
structure SpanningChain (joins : List Link) (tables : List String) (chain : JoinChain)
    (places : List Nat) : Prop where
  nodup : tables.Nodup
  order : tables = joinedTables joins
  names : chain.start.name? :: chain.attached.map (·.1.name?) = tables.map some
  count : chain.attached.length = tables.length - 1
  size : places.length = chain.attached.length
  sorted : places.Pairwise (· < ·)
  /-- The joins at all other places lead back to tables that earlier ones name. -/
  kept : ∀ place, place ∈ places ↔ LeadsTo joins place
  attaches : ∀ (k place : Nat), places[k]? = some place → ∃ l source table on,
    joins[place]? = some l ∧ chain.attached[k]? = some (source, on) ∧ source.name? = some table ∧
    Attaches (joins.take place) (tables.take (k + 1)) l table on

namespace SpanningChain

variable {joins : List Link} {tables : List String} {chain : JoinChain} {places : List Nat} {l : Link}

theorem length_tables (h : SpanningChain joins tables chain places) :
    tables.length = places.length + 1 := by
  have lengths := congrArg List.length h.names
  rw [List.length_cons, List.length_map, List.length_map, ← h.size] at lengths
  exact lengths.symm

/-- A join that leads back leaves the chain as it is. -/
theorem skip (h : SpanningChain joins tables chain places) (left : l.leftTable ∈ tables)
    (right : l.rightTable ∈ tables) : SpanningChain (joins ++ [l]) tables chain places where
  nodup := h.nodup
  order := by
    rw [joinedTables_concat, ← h.order, withTable_of_mem left, withTable_of_mem right]
  names := h.names
  count := h.count
  size := h.size
  sorted := h.sorted
  kept place := by
    rw [leadsTo_concat_iff, ← h.order, h.kept]
    simp [left, right]
  attaches k place found := by
    have inside := ((h.kept place).1 (List.mem_of_getElem? found)).lt
    rw [List.getElem?_append_left inside, List.take_append_of_le_length (Nat.le_of_lt inside)]
    exact h.attaches k place found

/-- A join that names one new table attaches it. -/
theorem attach (h : SpanningChain joins tables chain places) {table : String} (new : table ∉ tables)
    (ends : l.leftTable = table ∧ l.rightTable ∈ tables ∨ l.rightTable = table ∧ l.leftTable ∈ tables)
    (ok : checkJoin l = .ok ()) {source : Source} (name : source.name? = some table) :
    SpanningChain (joins ++ [l]) (tables ++ [table]) (.join chain source l.joinExpr)
      (places ++ [joins.length]) := by
  have inside : ∀ place ∈ places, place < joins.length := fun place mem => ((h.kept place).1 mem).lt
  have length := h.length_tables
  constructor
  case nodup => exact List.nodup_append.2 ⟨h.nodup, List.nodup_singleton _, fun t ht u hu e =>
      new (List.mem_singleton.1 hu ▸ e ▸ ht)⟩
  case order =>
    rw [joinedTables_concat, ← h.order]
    rcases ends with ⟨rfl, right⟩ | ⟨rfl, left⟩
    · rw [withTable_of_not_mem new, withTable_of_mem (List.mem_append_left _ right)]
    · rw [withTable_of_mem left, withTable_of_not_mem new]
  case names =>
    rw [JoinChain.start, JoinChain.attached, List.map_append, List.map_append, ← h.names,
      List.cons_append, List.map_singleton, List.map_singleton, name]
  case count =>
    rw [JoinChain.attached, List.length_append, List.length_append, ← h.size, length]
    rfl
  case size => simp [JoinChain.attached, h.size]
  case sorted =>
    refine List.pairwise_append.2 ⟨h.sorted, List.pairwise_singleton _ _, fun place mem last hl => ?_⟩
    exact List.mem_singleton.1 hl ▸ inside place mem
  case kept =>
    intro place
    have leads_on : ¬ (l.leftTable ∈ tables ∧ l.rightTable ∈ tables) := by
      rcases ends with ⟨rfl, -⟩ | ⟨rfl, -⟩
      · exact fun both => new both.1
      · exact fun both => new both.2
    rw [leadsTo_concat_iff, ← h.order, List.mem_append, List.mem_singleton, h.kept,
      and_iff_left leads_on]
  case attaches =>
    intro k place found
    -- Earlier joins see the same joins and tables in front of them as before.
    rcases Nat.lt_trichotomy k places.length with before | rfl | behind
    · rw [List.getElem?_append_left before] at found
      have early := inside place (List.mem_of_getElem? found)
      have shown : k < chain.attached.length := h.size ▸ before
      rw [List.getElem?_append_left early, List.take_append_of_le_length (Nat.le_of_lt early),
        JoinChain.attached, List.getElem?_append_left shown,
        List.take_append_of_le_length (by omega)]
      exact h.attaches k place found
    · rw [List.getElem?_concat_length] at found
      obtain rfl := Option.some.inj found
      have last : (JoinChain.join chain source l.joinExpr).attached[places.length]? =
          some (source, l.joinExpr) := by
        rw [JoinChain.attached, h.size, List.getElem?_concat_length]
      refine ⟨l, source, table, l.joinExpr, List.getElem?_concat_length, last, name, ?_⟩
      rw [List.take_left, ← length, List.take_left]
      refine ⟨new, fun m mem => ?_, ends, l.conjuncts_joinExpr ok, checkJoin_eq_ok_iff.1 ok⟩
      by_contra touches
      rw [Bool.not_eq_false] at touches
      exact new (h.order ▸ mem_joinedTables_iff.2 ⟨m, mem, touches⟩)
    · rw [List.getElem?_eq_none (by simp; omega)] at found
      cases found

end SpanningChain

/-! ## Chains of statements -/

section Run

variable {schema : Option String} {selects : List TableQuery} {joined joined' : Joined}
  {joins : List Link} {places : List Nat} {l : Link}

theorem name?_source_innerOf (table : String) :
    ((innerOf selects table).source schema).name? = some table := by
  rw [innerOf]
  cases found : selects.find? (·.table = table) with
  | none => rfl
  | some s =>
    have own : s.table = table := by simpa using List.find?_some found
    exact congrArg some own

theorem SpanningChain.next (h : SpanningChain joins joined.tables joined.chain places)
    (ok : checkJoin l = .ok ()) (next : nextJoin schema selects joined l = .ok joined') :
    ∃ places', SpanningChain (joins ++ [l]) joined'.tables joined'.chain places' := by
  obtain ⟨touches, rfl⟩ := (nextJoin_eq_ok_iff ok).1 next
  by_cases left : l.leftTable ∈ joined.tables <;> by_cases right : l.rightTable ∈ joined.tables
  · have same : joined.after schema selects [l] = joined := by
      simp [Joined.after, entering, chainFrom, left, right]
    rw [same]
    exact ⟨places, h.skip left right⟩
  · have entered : joined.after schema selects [l] = ⟨joined.tables ++ [l.rightTable],
        .join joined.chain ((innerOf selects l.rightTable).source schema) l.joinExpr⟩ := by
      simp [Joined.after, entering, chainFrom, left, right]
    rw [entered]
    exact ⟨_, h.attach right (.inr ⟨rfl, left⟩) ok (name?_source_innerOf _)⟩
  · have entered : joined.after schema selects [l] = ⟨joined.tables ++ [l.leftTable],
        .join joined.chain ((innerOf selects l.leftTable).source schema) l.joinExpr⟩ := by
      simp [Joined.after, entering, chainFrom, left]
    rw [entered]
    exact ⟨_, h.attach left (.inl ⟨rfl, right⟩) ok (name?_source_innerOf _)⟩
  · exact absurd touches (by simp [left, right])

theorem SpanningChain.run {ls : List Link}
    (h : SpanningChain joins joined.tables joined.chain places) (ok : ∀ l ∈ ls, checkJoin l = .ok ())
    (run : ls.foldlM (nextJoin schema selects) joined = .ok joined') :
    ∃ places', SpanningChain (joins ++ ls) joined'.tables joined'.chain places' := by
  induction ls generalizing joins joined places with
  | nil =>
    obtain rfl := Except.ok.inj run
    rw [List.append_nil]
    exact ⟨places, h⟩
  | cons l ls ih =>
    rw [List.forall_mem_cons] at ok
    rw [List.foldlM_cons] at run
    obtain ⟨joined₁, next, run⟩ := bind_eq_ok_iff.1 run
    obtain ⟨places₁, h₁⟩ := h.next ok.1 next
    rw [List.append_cons]
    exact ih h₁ ok.2 run

theorem spanningChain_first (ne : l.leftTable ≠ l.rightTable) (ok : checkJoin l = .ok ())
    (first : firstJoin schema selects l = .ok joined) :
    SpanningChain [l] joined.tables joined.chain [0] := by
  simp only [firstJoin, joinCondition_eq_ok ok, if_neg ne.symm, bind, Except.bind] at first
  obtain rfl := Except.ok.inj first
  have order : [l.leftTable, l.rightTable] = joinedTables [l] := by
    simp [joinedTables, eraseDups_of_nodup, ne]
  constructor
  case nodup => simp [ne]
  case order => exact order
  case names =>
    simp [JoinChain.start, JoinChain.attached, name?_source_innerOf]
  case count => rfl
  case size => rfl
  case sorted => exact List.pairwise_singleton _ _
  case kept =>
    intro place
    have start : LeadsTo [l] 0 := ⟨l, rfl, by simp [joinedTables]⟩
    rw [List.mem_singleton]
    exact ⟨fun e => e ▸ start, fun h => Nat.lt_one_iff.1 h.lt⟩
  case attaches =>
    intro k place found
    obtain ⟨rfl, rfl⟩ : k = 0 ∧ place = 0 := by
      cases k with
      | zero => exact ⟨rfl, (Option.some.inj found).symm⟩
      | succ k => cases found
    exact ⟨l, _, l.rightTable, l.joinExpr, rfl, rfl, name?_source_innerOf _,
      by simpa using ne.symm, fun m mem => absurd mem List.not_mem_nil, .inr ⟨rfl, by simp⟩, l.conjuncts_joinExpr ok,
      checkJoin_eq_ok_iff.1 ok⟩

end Run

theorem spanningChain_of_assemble {d : Dialect} {schema : Option String} {selection : Selection}
    {joins : List Link} {filter : Option String} {a : Assembled}
    (ne : ∀ l ∈ joins, l.leftTable ≠ l.rightTable) (some_join : joins ≠ [])
    (h : assemble d schema selection joins filter = .ok a) :
    ∃ chain places, a.query.source = some (.nested chain) ∧
      SpanningChain joins a.tables chain places := by
  obtain ⟨-, checked, tables, selects, source, tables_ok, -, source_ok, rfl⟩ :=
    assemble_eq_ok_iff.1 h
  obtain ⟨-, ⟨no_join, -⟩ | ⟨-, -, rfl⟩⟩ := tablesOf_eq_ok_iff.1 tables_ok
  · exact absurd no_join some_join
  obtain ⟨l, ls, rfl⟩ := List.exists_cons_of_ne_nil some_join
  rw [List.forall_mem_cons] at ne checked
  obtain ⟨start, first, made⟩ := bind_eq_ok_iff.1 source_ok
  obtain ⟨joined, run, made⟩ := bind_eq_ok_iff.1 made
  obtain rfl := Except.ok.inj made
  obtain ⟨places, spans⟩ := (spanningChain_first ne.1 checked.1 first).run checked.2 run
  refine ⟨joined.chain, places, rfl, ?_⟩
  rw [List.singleton_append] at spans
  exact spans.order ▸ spans

theorem Stages.tables_eq {target : Target} {links : List Link} {r : QueryRequest}
    (c : Stages target links r) (some_edge : c.path.edges ≠ []) :
    c.joins ≠ [] ∧ c.assembled.tables = c.path.tables := by
  have edges : c.joins.map (·.edge) = c.path.edges :=
    (JoinGraph.wellFormed_of_build c.built).map_edge_plan c.planned
  have some_join : c.joins ≠ [] := fun none_left => some_edge (by rw [← edges, none_left]; rfl)
  obtain ⟨chain, places, -, spans⟩ := spanningChain_of_assemble
    (fun _ mem => (c.usable mem).tables_ne) some_join c.assembled_ok
  refine ⟨some_join, ?_⟩
  rw [spans.order, joinedTables, JoinPath.tables, ← edges, List.flatMap_map]
  rfl

/-- The chain of a statement spans the tables that rows are taken from: each join attaches one, and the
joins that are left out lead back to tables that are there. The tables of a compiled statement are those
of its path. -/
theorem chain_spans_tables :
    (∀ (d : Dialect) (schema : Option String) (selection : Selection) (joins : List Link)
      (filter : Option String) (a : Assembled), (∀ l ∈ joins, l.leftTable ≠ l.rightTable) →
      joins ≠ [] → assemble d schema selection joins filter = .ok a →
      ∃ chain places, a.query.source = some (.nested chain) ∧
        SpanningChain joins a.tables chain places) ∧
    ∀ (target : Target) (links : List Link) (r : QueryRequest) (a : Assembled) (path : JoinPath),
      compileQuery target links r = .ok (a, path) → path.edges ≠ [] →
      a.tables = path.tables ∧ ∃ graph steps chain places, JoinGraph.build links = .ok graph ∧
        graph.plan path = .ok steps ∧ a.query.source = some (.nested chain) ∧
        SpanningChain (steps.map (·.condition)) a.tables chain places := by
  refine ⟨fun d schema selection joins filter a ne some_join h =>
    spanningChain_of_assemble ne some_join h, ?_⟩
  intro target links r a path made some_edge
  obtain ⟨c, rfl, rfl⟩ := compileQuery_eq_ok_iff.1 made
  obtain ⟨some_join, tables⟩ := c.tables_eq some_edge
  obtain ⟨chain, places, from_eq, spans⟩ := spanningChain_of_assemble
    (fun _ mem => (c.usable mem).tables_ne) some_join c.assembled_ok
  exact ⟨tables, c.graph, c.steps, chain, places, c.built, c.planned, from_eq, spans⟩

/-- Invoices belong to customers and to orders, and orders to customers. -/
def invoiceJoins : List Link :=
  [⟨"order", "customer", ["customer_id"], ["id"]⟩,
    ⟨"invoice", "customer", ["shop", "customer_id"], ["shop", "id"]⟩,
    ⟨"invoice", "order", ["order_id"], ["id"]⟩]

def invoiceSelection : Selection where
  tables := [⟨"invoice", [⟨"total", "Total"⟩], [], []⟩, ⟨"order", [⟨"number", "Number"⟩], [], []⟩]
  outputs := [⟨"invoice", "Total"⟩, ⟨"order", "Number"⟩]

/-- Invoices are attached to customers, so the join that leads from them back to orders is left out. -/
theorem invoice_chain_spans :
    (∃ a chain places, assemble .postgres none invoiceSelection invoiceJoins none = .ok a ∧
      a.query.source = some (.nested chain) ∧ SpanningChain invoiceJoins a.tables chain places ∧
      a.tables = ["order", "customer", "invoice"] ∧ chain.attached.length = 2) ∧
    ∃ a path, compileQuery {} JoinGraph.schoolLinks
        { dimensionData := [⟨"country", "name", ""⟩, ⟨"term", "year", ""⟩] } = .ok (a, path) ∧
      path.edges ≠ [] ∧ a.tables = path.tables := by
  constructor
  · have put_together : (assemble .postgres none invoiceSelection invoiceJoins none).map (·.tables) =
        .ok ["order", "customer", "invoice"] := by decide +kernel
    obtain ⟨a, made, tables⟩ := map_eq_ok_iff.1 put_together
    obtain ⟨chain, places, from_eq, spans⟩ := chain_spans_tables.1 .postgres none invoiceSelection
      invoiceJoins none a (by decide) (by decide) made
    exact ⟨a, chain, places, made, from_eq, spans, tables, by rw [spans.count, tables]; rfl⟩
  · have answered : (compileQuery {} JoinGraph.schoolLinks
        { dimensionData := [⟨"country", "name", ""⟩, ⟨"term", "year", ""⟩] }).map (·.2.edges) =
        .ok [⟨"country", "student"⟩, ⟨"fact", "student"⟩, ⟨"fact", "term"⟩] := by decide +kernel
    obtain ⟨⟨a, path⟩, made, edges⟩ := map_eq_ok_iff.1 answered
    have some_edge : path.edges ≠ [] := fun none_left => by
      rw [show path.edges = _ from edges] at none_left
      cases none_left
    exact ⟨a, path, made, some_edge, (chain_spans_tables.2 _ _ _ a path made some_edge).1⟩

end Joinery
