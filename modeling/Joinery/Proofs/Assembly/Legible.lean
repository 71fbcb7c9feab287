import Joinery.Proofs.Assembly.Layout
import Joinery.Proofs.Sql.Spacing

/-!
# Statements that are put together can be read back

What `assemble` puts together is a statement in the sense of `Sql.Query.Statement`: its inner statements
show columns and aggregates of columns (`TableQuery.legible_source`), and its conditions are
conjunctions of equations (`Link.condition_joinExpr`). So no choice of names makes two statements look the same
(`assembled_query_of_text`).
-/

namespace Joinery

open Sql Assembly

/-! ## Parts of statements -/

theorem Link.condition_joinExpr {l : Link} (ok : checkJoin l = .ok ()) : l.joinExpr.Condition := by
  obtain ⟨ne, length⟩ := checkJoin_eq_ok_iff.1 ok
  have equations : ∀ e ∈ l.equations, e.Equation := by
    intro e mem
    obtain ⟨p, -, rfl⟩ := List.mem_map.1 mem
    exact .eq (.column _ _) (.column _ _)
  rw [joinExpr]
  cases some_equation : l.equations with
  | nil => exact absurd some_equation (equations_ne_nil ne length)
  | cons e es =>
    rw [some_equation, List.forall_mem_cons] at equations
    exact (Expr.Condition.one equations.1).foldl_conj equations.2

theorem operand_of_mem_requestedItems {table : String} {shown : TableSelection} {joins : List Link}
    {item : InnerItem} (mem : item ∈ requestedItems table shown joins) : item.expr.Operand := by
  simp only [requestedItems, List.mem_append, List.mem_map] at mem
  rcases mem with ((⟨c, -, rfl⟩ | ⟨c, -, rfl⟩) | ⟨c, -, rfl⟩) | ⟨c, -, rfl⟩
  · exact .column _ _
  · exact .aggregate _ _ _
  · exact .column _ _
  · exact .column _ _

namespace TableQuery

theorem legible_source (schema : Option String) {s : TableQuery}
    (operands : ∀ item ∈ s.items, item.expr.Operand) : (s.source schema).Legible := by
  refine .derived (.mk ?_ (.table _) ?_) _
  · intro item mem
    obtain ⟨i, hi, rfl⟩ := List.mem_map.1 mem
    exact operands i hi
  · intro e mem
    obtain ⟨-, i, hi, -, rfl⟩ := mem_groupBy_iff.1 mem
    exact operands i hi

end TableQuery

theorem legible_chainFrom {source : String → Source} {chain : JoinChain} (start : chain.Legible)
    {es : List (Link × String)} (sources : ∀ e ∈ es, (source e.2).Legible)
    (conditions : ∀ e ∈ es, e.1.joinExpr.Condition) : (chainFrom source chain es).Legible := by
  induction es generalizing chain with
  | nil => exact start
  | cons e es ih =>
    rw [List.forall_mem_cons] at sources conditions
    exact ih (.join start sources.1 conditions.1) sources.2 conditions.2

/-! ## Whole statements -/

section Assemble

variable {d : Dialect} {schema : Option String} {selection : Selection} {joins : List Link}
  {filter : Option String} {a : Assembled}

theorem Assembled.LaidOut.legible_source {y : Layout} {inner : String → TableQuery}
    (h : a.LaidOut d schema selection joins filter y inner)
    (checked : ∀ l ∈ joins, checkJoin l = .ok ()) :
    (y.source fun t => (inner t).source schema).Legible := by
  have sources : ∀ t ∈ y.tables, ((inner t).source schema).Legible := fun t mem =>
    TableQuery.legible_source schema fun item shown =>
      operand_of_mem_requestedItems ((h.shows mem).2.asked item shown)
  have base := sources y.base (List.mem_cons_self ..)
  unfold Layout.source
  split_ifs
  · exact base
  · refine .nested (legible_chainFrom (.base base) (fun e mem => ?_) fun e mem => ?_)
    · exact sources e.2 (List.mem_cons_of_mem _ (List.mem_map_of_mem mem))
    · exact Link.condition_joinExpr (checked e.1 (h.mem e mem))

theorem statement_of_assemble (ne : ∀ l ∈ joins, l.leftTable ≠ l.rightTable)
    (made : assemble d schema selection joins filter = .ok a) : a.query.Statement := by
  obtain ⟨-, checked, -⟩ := assemble_eq_ok_iff.1 made
  obtain ⟨y, inner, h⟩ := exists_layout ne made
  rw [h.query]
  refine .mk filter (fun item mem => ?_) (h.legible_source checked)
  obtain ⟨c, -, rfl⟩ := List.mem_map.1 mem
  exact .column _ _

end Assemble

/-- Statements that have the same text in some dialect are the same, whatever they were put together
from. -/
theorem assembled_query_of_text {d₁ d₂ : Dialect} {schema₁ schema₂ : Option String}
    {selection₁ selection₂ : Selection} {joins₁ joins₂ : List Link} {filter₁ filter₂ : Option String}
    {a₁ a₂ : Assembled} (ne₁ : ∀ l ∈ joins₁, l.leftTable ≠ l.rightTable)
    (ne₂ : ∀ l ∈ joins₂, l.leftTable ≠ l.rightTable)
    (made₁ : assemble d₁ schema₁ selection₁ joins₁ filter₁ = .ok a₁)
    (made₂ : assemble d₂ schema₂ selection₂ joins₂ filter₂ = .ok a₂) {d : Dialect}
    (same : a₁.query.toSql d = a₂.query.toSql d) : a₁.query = a₂.query :=
  (statement_of_assemble ne₁ made₁).eq_of_toSql (statement_of_assemble ne₂ made₂) same

/-- Orders of a kind and their items, by names that are made of marks and words. -/
def oddSelection (kinds : List Dimension) : Selection where
  tables := [⟨"or\"der", kinds, [], []⟩, ⟨"line]\nitem", [], [⟨"n", .countDistinct, "FROM"⟩], []⟩]
  outputs := [⟨"or\"der", "\", \""⟩, ⟨"line]\nitem", "FROM"⟩]

def oddLink : Link :=
  ⟨"or\"der", "line]\nitem", ["id", "a\" AND \"b"], ["order id", "a"]⟩

/-- A column that is asked for twice and a join that is made twice do not show in the text, so they do
not show in the statement. -/
theorem odd_query_of_text :
    ∃ a₁ a₂,
      assemble .postgres (some "my.schema") (oddSelection [⟨"kind", "\", \""⟩]) [oddLink]
        (some "1 = 1") = .ok a₁ ∧
      assemble .duckdb (some "my.schema") (oddSelection [⟨"kind", "\", \""⟩, ⟨"kind", "\", \""⟩])
        [oddLink, oddLink] (some "1 = 1") = .ok a₂ ∧
      a₁.query.toSql .tsql = a₂.query.toSql .tsql ∧ a₁.query = a₂.query := by
  have found : (assemble .postgres (some "my.schema") (oddSelection [⟨"kind", "\", \""⟩]) [oddLink]
      (some "1 = 1") >>= fun a₁ =>
        (assemble .duckdb (some "my.schema") (oddSelection [⟨"kind", "\", \""⟩, ⟨"kind", "\", \""⟩])
          [oddLink, oddLink] (some "1 = 1")).map fun a₂ =>
            decide (a₁.query.tokens = a₂.query.tokens)) = .ok true := by
    decide +kernel
  obtain ⟨a₁, made₁, found⟩ := bind_eq_ok_iff.1 found
  obtain ⟨a₂, made₂, found⟩ := map_eq_ok_iff.1 found
  have same : a₁.query.toSql .tsql = a₂.query.toSql .tsql :=
    congrArg (Token.render .tsql) (of_decide_eq_true found)
  exact ⟨a₁, a₂, made₁, made₂, same,
    assembled_query_of_text (by decide) (by decide) made₁ made₂ same⟩

end Joinery
