import Joinery.Proofs.Sql.Reading

/-!
# Statements by their text

The tokens of legible queries are spaced (`Query.Legible.spaced`), so their text says what they are, and
they say what the query is. A filter is copied as it is, but comes last: `Query.Statement.eq_of_toSql`.
-/

namespace Joinery.Sql

open Token

/-! ## Expressions and lists -/

namespace Expr

theorem Operand.spaced {e : Expr} (operand : e.Operand) {rest : List Token} (apart : Apart rest) :
    Spaced (e.tokens ++ rest) ∧ (e.tokens ++ rest).head? ≠ some space := by
  cases operand with
  | column table name => simp [tokens, ofTable, apart]
  | aggregate op table name => cases op <;> simp [tokens, ofTable, apart.1]

theorem Equation.spaced {e : Expr} (equation : e.Equation) {rest : List Token} (apart : Apart rest) :
    Spaced (e.tokens ++ rest) := by
  obtain ⟨left, right⟩ := equation
  have after := (right.spaced apart).1
  rw [tokens, List.append_assoc, List.append_assoc]
  exact (left.spaced (by simpa using after)).1

theorem Condition.spaced {e : Expr} (condition : e.Condition) {rest : List Token}
    (apart : Apart rest) : Spaced (e.tokens ++ rest) := by
  obtain ⟨⟨some_e, equations⟩, eq⟩ := condition.conjuncts
  obtain ⟨g, gs, conjuncts⟩ := List.exists_cons_of_ne_nil some_e
  rw [conjuncts, List.forall_mem_cons] at equations
  rw [eq, conjuncts, intercalate_map_cons, List.append_assoc]
  refine equations.1.spaced (apart_flatMap apart fun f mem rest apart => ?_)
  simpa [padded] using (equations.2 f mem).spaced apart

end Expr

theorem SelectItem.spaced {item : SelectItem} (operand : item.expr.Operand) {rest : List Token}
    (apart : Apart rest) :
    Spaced (item.tokens ++ rest) ∧ (item.tokens ++ rest).head? ≠ some space := by
  rw [SelectItem.tokens, List.append_assoc]
  refine operand.spaced ?_
  cases item.aliasName with
  | none => exact apart
  | some name => simpa [aliased, padded] using apart

namespace Query

theorem spaced_selectTokens {items : List SelectItem} {depth : Nat}
    (operands : ∀ item ∈ items, item.expr.Operand) {rest : List Token} (apart : Apart rest) :
    Spaced (selectTokens depth items ++ rest) := by
  have own : ∀ item ∈ items, ∀ rest, Apart rest →
      Spaced (line (depth + 1) :: (item.tokens ++ rest)) := fun item mem rest apart =>
    spaced_line.2 (SelectItem.spaced (operands item mem) apart).symm
  rw [selectTokens, List.cons_append]
  refine (spaced_keyword (by decide)).2 ?_
  cases items with
  | nil => exact apart.1
  | cons item items =>
    rw [List.forall_mem_cons] at own
    rw [intercalate_map_cons, List.append_assoc]
    refine own.1 _ (apart_flatMap apart fun item mem rest apart => ?_)
    simpa using own.2 item mem rest apart

theorem apart_groupByTokens (depth : Nat) {es : List Expr} (operands : ∀ e ∈ es, e.Operand)
    {rest : List Token} (apart : Apart rest) : Apart (groupByTokens depth es ++ rest) := by
  cases es with
  | nil => exact apart
  | cons e es =>
    rw [List.forall_mem_cons] at operands
    have list : Spaced (e.tokens ++
        (es.flatMap (fun e => [punct ',', space] ++ e.tokens) ++ rest)) := by
      refine (operands.1.spaced (apart_flatMap apart fun e mem rest apart => ?_)).1
      simpa using ((operands.2 e mem).spaced apart).1
    simp only [groupByTokens, intercalate_map_cons]
    simpa using list

theorem spaced_bodyTokens {depth : Nat} {items : List SelectItem} {source : Source}
    (operands : ∀ item ∈ items, item.expr.Operand) {rest : List Token}
    (spaced : Spaced (source.tokensAt depth ++ rest)) :
    Spaced (bodyTokens depth (items, source) ++ rest) := by
  rw [bodyTokens, List.append_assoc, List.append_assoc]
  exact spaced_selectTokens operands (by simpa using spaced)

end Query

mutual

theorem Query.Legible.spaced (depth : Nat) : ∀ {query : Query}, query.Legible →
    ∀ {rest : List Token}, Apart rest → Spaced (query.tokensAt depth ++ rest)
  | _, .mk operands source_legible groups, _, apart => by
    have source := source_legible.spaced depth (Query.apart_groupByTokens depth groups apart)
    simpa [Query.tokensAt, Query.bodyTokens, Query.conditionTokens] using
      Query.spaced_bodyTokens operands source

theorem Source.Legible.spaced (depth : Nat) : ∀ {source : Source}, source.Legible →
    ∀ {rest : List Token}, Apart rest → Spaced (source.tokensAt depth ++ rest)
  | _, .table ⟨schema, table⟩, _, apart => by
    cases schema <;> simp [Source.tokensAt, TableName.tokens, apart]
  | .derived query name, .derived query_legible _, rest, apart => by
    have after : Apart (line depth :: punct ')' :: (aliased name ++ rest)) := by
      simp [aliased, padded, apart]
    have inner := query_legible.spaced (depth + 1) after
    obtain ⟨ts, eq⟩ := query.exists_tokensAt (depth + 1)
    simpa [Source.tokensAt, eq] using inner
  | .nested chain, .nested chain_legible, rest, apart => by
    have after : Apart (line depth :: punct ')' :: rest) := by simp [apart.1]
    have inner := chain_legible.spaced (depth + 1) after
    obtain ⟨t, ts, eq, rfl | ⟨name, rfl⟩⟩ := chain.exists_tokensAt (depth + 1)
    · simpa [Source.tokensAt, eq] using inner
    · simpa [Source.tokensAt, eq] using inner

theorem JoinChain.Legible.spaced (depth : Nat) : ∀ {chain : JoinChain}, chain.Legible →
    ∀ {rest : List Token}, Apart rest → Spaced (chain.tokensAt depth ++ rest)
  | _, .base source_legible, _, apart => source_legible.spaced depth apart
  | .join chain source e, .join chain_legible source_legible condition, rest, apart => by
    have after : Apart (padded .on ++ (e.tokens ++ rest)) := by
      simpa [padded] using condition.spaced apart
    have joined := source_legible.spaced depth after
    have next : Apart (line depth :: keyword .innerJoin :: space ::
        (source.tokensAt depth ++ (padded .on ++ (e.tokens ++ rest)))) := by
      simpa using joined
    simpa [JoinChain.tokensAt] using chain_legible.spaced depth next

end

/-! ## Whole statements -/

/-- A query of operands and, last, a filter that is copied as it is. -/
inductive Query.Statement : Query → Prop
  | mk {items : List SelectItem} {source : Source} (filter : Option String)
      (operands : ∀ item ∈ items, item.expr.Operand) (source_legible : source.Legible) :
      Query.Statement (.mk items (some source) (filter.map .verbatim) [])

theorem Query.tokens_statement (items : List SelectItem) (source : Source) (filter : Option String) :
    (Query.mk items (some source) (filter.map .verbatim) []).tokens =
      bodyTokens 0 (items, source) ++ conditionTokens 0 (filter.map .verbatim) := by
  simp [Query.tokens, Query.tokensAt, bodyTokens, groupByTokens]

theorem Query.apart_conditionTokens (filter : Option String) :
    Apart (conditionTokens 0 (filter.map .verbatim)) := by
  cases filter with
  | none => exact apart_nil
  | some text =>
    have last : Spaced [line 0, keyword .where, space, verbatim text] :=
      spaced_line.2 ⟨nofun, .copied text⟩
    exact ⟨last, nofun⟩

/-- Statements are told by their tokens. -/
theorem Query.Statement.eq_of_tokens {q q' : Query} (hq : q.Statement) (hq' : q'.Statement)
    (h : q.tokens = q'.tokens) : q = q' := by
  obtain @⟨items, source, filter, operands, legible⟩ := hq
  obtain @⟨items', source', filter', operands', legible'⟩ := hq'
  have stop (filter : Option String) :
      NotNext (punct '.') (conditionTokens 0 (filter.map .verbatim)) := by
    cases filter <;> exact nofun
  rw [Query.tokens_statement, Query.tokens_statement] at h
  obtain ⟨same, last⟩ := Query.told_body operands (legible.told 0) ⟨operands', legible'⟩ (stop filter)
    (stop filter') h
  obtain ⟨rfl, rfl⟩ := Prod.mk.inj same
  have filters : filter = filter' := by
    cases filter <;> cases filter' <;> simp_all [Query.conditionTokens, Expr.tokens]
  rw [filters]

theorem Query.Statement.spaced {q : Query} (hq : q.Statement) : Spaced q.tokens := by
  obtain @⟨items, source, filter, operands, legible⟩ := hq
  rw [Query.tokens_statement]
  exact Query.spaced_bodyTokens operands (legible.spaced 0 (Query.apart_conditionTokens filter))

/-- Statements are told by their text in any dialect. -/
theorem Query.Statement.eq_of_toSql {q q' : Query} (hq : q.Statement) (hq' : q'.Statement)
    {d : Dialect} (h : q.toSql d = q'.toSql d) : q = q' :=
  hq.eq_of_tokens hq' (hq.spaced.eq_of_text hq'.spaced (String.ofList_injective h))

end Joinery.Sql
