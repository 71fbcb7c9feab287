import Joinery.Proofs.Filter.Quoted
import Joinery.Proofs.Sql.Reading

/-!
# Conditions copied into a statement

Texts that are added to a query as conditions are copied behind WHERE, with AND between them and no parentheses around
them (`Query.toSql_filterAll`). What they are read as there, with any parser that climbs by precedence, is what texts with
AND between them are read as (`Query.filterAll_reads`), and need not be what all of them say
(`Query.filterAll_regroups`).
-/

namespace Joinery

/-- The value of a tree, given those of the conditions in it. -/
def Filter.Tree.truth {α : Type} [DistribLattice α] (value : Tree → α) : Tree → α
  | form "AND" [left, right] => left.truth value ⊓ right.truth value
  | form "OR" [left, right] => left.truth value ⊔ right.truth value
  | form "()" [inside] => inside.truth value
  | t => value t

open Joinery.Filter in
theorem Filter.Tree.isTruth_truth {α : Type} [DistribLattice α] (value : Tree → α) : climbing.IsTruth (truth value) :=
  ⟨fun _ _ => rfl, fun _ _ => rfl⟩

namespace Sql

open Joinery.Filter Joinery.Filter.SqlParser

variable {d : Dialect}

theorem flatMap_intercalate {α β : Type} (f : α → List β) (sep : List α) (ls : List (List α)) :
    (sep.intercalate ls).flatMap f = (sep.flatMap f).intercalate (ls.map (·.flatMap f)) := by
  induction ls with
  | nil => rfl
  | cons l ls ih =>
    cases ls with
    | nil => simp
    | cons l' ls =>
      rw [List.intercalate_cons_cons, List.flatMap_append, List.flatMap_append, ih]
      exact List.intercalate_cons_cons.symm

theorem Token.render_append (ts ts' : List Token) : render d (ts ++ ts') = render d ts ++ render d ts' := by
  rw [render, List.flatMap_append, String.ofList_append, render, render]

/-- The query with texts as further conditions, one after the other. -/
def Query.filterAll (q : Query) (texts : List String) : Query :=
  texts.foldl (fun q text => q.filter (.verbatim text)) q

theorem Query.filterAll_some (items : List SelectItem) (source : Option Source) (e : Expr) (groupBy : List Expr)
    (texts : List String) : (mk items source (some e) groupBy).filterAll texts =
      mk items source (some ((texts.map Expr.verbatim).foldl Expr.conj e)) groupBy := by
  induction texts generalizing e with
  | nil => rfl
  | cons text texts ih => exact ih (e.conj (.verbatim text))

/-- Copied texts are written with AND between them. -/
theorem Expr.toSql_verbatims (text : String) (texts : List String) :
    ((texts.map verbatim).foldl conj (verbatim text)).toSql d = " AND ".intercalate (text :: texts) := by
  have conjuncts : ((texts.map verbatim).foldl conj (verbatim text)).conjuncts = (text :: texts).map verbatim := by
    rw [conjuncts_foldl_conj, List.flatMap_map]
    exact congrArg (verbatim text :: ·) List.map_eq_flatMap.symm
  rw [toSql, Token.render, tokens_eq_intercalate, conjuncts, flatMap_intercalate, ← String.toList_inj,
    String.toList_ofList, String.toList_intercalate, List.map_map, List.map_map]
  congr 1
  refine List.map_congr_left fun t _ => ?_
  change (t.toList ++ []) = t.toList
  rw [List.append_nil]

theorem Query.toSql_filterAll (items : List SelectItem) (source : Option Source) (groupBy : List Expr) (text : String)
    (texts : List String) : ((mk items source none groupBy).filterAll (text :: texts)).toSql d =
      (mk items source none []).toSql d ++ "\nWHERE " ++ " AND ".intercalate (text :: texts) ++
        Token.render d (groupByTokens 0 groupBy) := by
  have filtered : (mk items source none groupBy).filterAll (text :: texts) =
      mk items source (some ((texts.map Expr.verbatim).foldl Expr.conj (.verbatim text))) groupBy :=
    filterAll_some items source (.verbatim text) groupBy texts
  rw [filtered, ← Expr.toSql_verbatims (d := d)]
  generalize (texts.map Expr.verbatim).foldl Expr.conj (.verbatim text) = e
  have whole : (mk items source (some e) groupBy).tokens =
      (mk items source none []).tokens ++ [.line 0, .keyword .where, .space] ++ e.tokens ++
        groupByTokens 0 groupBy := by
    cases source with
    | none => simp [tokens, tokensAt, conditionTokens, groupByTokens]
    | some source => simp [tokens, tokensAt, conditionTokens, groupByTokens]
  rw [toSql, whole, Token.render_append, Token.render_append, Token.render_append]
  rfl

/-- Conditions that are added to a query one after the other are copied with AND between them. Every filter is a clause.
Clauses that do not change how another one is read are read as one condition over the columns of all of them. That lets
through what all of them let through, and no more if none of them has alternatives. But the last alternative of a clause
and the first one of the next become one alternative, and a clause that ends in a comment takes the clauses behind it
with it. -/
theorem Query.filterAll_reads {r : SqlParser} {c : r.Climbing} {parts : r.Expr → List r.Expr} (laws : c.Laws parts)
    (order : r.VisitsParts parts) {word : c.Word .and} {endsInComment : Dialect → String → Prop}
    (cuts : r.CutsTexts word.1 endsInComment) (items : List SelectItem) (source : Option Source) (groupBy : List Expr)
    (k : Clause c d) (ks : List (Clause c d)) :
    ((mk items source none groupBy).filterAll ((k :: ks).map (·.filter.text))).toSql d =
      (mk items source none []).toSql d ++ "\nWHERE " ++ Clause.joinedText (k :: ks) ++
        Token.render d (groupByTokens 0 groupBy) ∧
    (∀ text f, r.readFilter d text = .ok (some f) →
      ∃ k' : Clause c d, k'.filter = f ∧ ∀ o ∈ k'.condition.pieces, c.IsOperand d o) ∧
    (∀ k' ∈ k :: ks, r.readWhole d k'.filter.text = .ok k'.condition.expr) ∧
    (Clause.Separate endsInComment k ks → ∃ e : c.Condition,
      r.readWhole d (Clause.joinedText (k :: ks)) = .ok e.expr ∧
      r.readFilter d (Clause.joinedText (k :: ks)) =
        .ok (some ⟨Clause.joinedText (k :: ks), ((k :: ks).flatMap (·.filter.columns)).eraseDups⟩) ∧
      e.alternatives = ((k :: ks).map (·.condition.alternatives)).foldr Climbing.Condition.mergeAlternatives [] ∧
      ∀ (β : Type) [DistribLattice β] (value : r.Expr → β), c.IsTruth value → ∀ x,
        ((∀ k' ∈ k :: ks, x ≤ value k'.condition.expr) → x ≤ value e.expr) ∧
        ((∀ k' ∈ k :: ks, k'.condition.more = []) →
          (x ≤ value e.expr ↔ ∀ k' ∈ k :: ks, x ≤ value k'.condition.expr))) ∧
    ∀ front k' back, k :: ks = front ++ k' :: back → (∀ before ∈ front, ¬ endsInComment d before.filter.text) →
      endsInComment d k'.filter.text → (∀ behind ∈ back, '\n' ∉ behind.filter.text.toList) →
      r.readWhole d (Clause.joinedText (k :: ks)) = r.readWhole d (Clause.joinedText (front ++ [k'])) := by
  refine ⟨toSql_filterAll items source groupBy k.filter.text _, fun text f => laws.exists_clause,
    fun k' _ => k'.readWhole, fun separate => ?_, fun front k' back all closed opened one_line => ?_⟩
  · exact ⟨Clause.joined word k ks, Clause.readWhole_joined cuts laws separate,
      Clause.readFilter_joined cuts laws separate order, Clause.alternatives_joined word k ks,
      fun β _ value truth x => ⟨Clause.le_value_joined truth, fun single => Clause.le_value_joined_iff truth single⟩⟩
  · rw [all]
    exact Clause.readWhole_joined_of_comment cuts closed opened one_line

/-- Two comparisons are their conjunction. Behind a comment there is no second condition. -/
theorem Query.filterAll_two :
    let first : Comparison .postgres := ⟨"a", "x", "=", by decide,
      .decimal _ '1' [] [] (List.forall_mem_singleton.2 rfl) (.inl rfl), false⟩
    let second : Comparison .postgres := ⟨"a", "y", "<", by decide,
      .decimal _ '2' [] [] (List.forall_mem_singleton.2 rfl) (.inl rfl), false⟩
    (∃ t, sqlParser.readWhole .postgres "\"a\".\"x\" = 1 AND \"a\".\"y\" < 2" = .ok t ∧
      ∀ (value : Tree → Bool) (x : Bool), x ≤ t.truth value ↔
        x ≤ first.term.tree.truth value ∧ x ≤ second.term.tree.truth value) ∧
    sqlParser.readWhole .postgres "a.x = 1 -- one AND a.z = 3" = sqlParser.readWhole .postgres "a.x = 1 -- one" := by
  intro first second
  constructor
  · obtain ⟨-, -, -, together, -⟩ := filterAll_reads climbs_tree visitsParts_tree cutsTexts_lexemes [] none []
      first.clause [second.clause]
    obtain ⟨e, read, -, -, meaning⟩ := together (first.separate [second])
    have text : " AND ".intercalate [first.text, second.text] = "\"a\".\"x\" = 1 AND \"a\".\"y\" < 2" := by
      decide +kernel
    refine ⟨e.expr, text ▸ read, fun value x => ?_⟩
    have both := (meaning Bool _ (Tree.isTruth_truth value) x).2 fun k mem => ?_
    · rwa [List.forall_mem_cons, List.forall_mem_singleton] at both
    · rcases List.mem_pair.1 mem with rfl | rfl <;> rfl
  · have accepted : sqlParser.readFilter .postgres "a.x = 1 -- one" =
        .ok (some ⟨"a.x = 1 -- one", [⟨"a", "x"⟩]⟩) := by decide +kernel
    have accepted' : sqlParser.readFilter .postgres "a.z = 3" = .ok (some ⟨"a.z = 3", [⟨"a", "z"⟩]⟩) := by
      decide +kernel
    obtain ⟨k, same, -⟩ := climbs_tree.exists_clause accepted
    obtain ⟨k', same', -⟩ := climbs_tree.exists_clause accepted'
    obtain ⟨-, -, -, -, comment⟩ := filterAll_reads climbs_tree visitsParts_tree cutsTexts_lexemes [] none [] k [k']
    have taken := comment [] k [k'] rfl (List.forall_mem_nil _) (by rw [same]; decide +kernel)
      (List.forall_mem_singleton.2 (by rw [same']; decide +kernel))
    have whole : Clause.joinedText [k, k'] = "a.x = 1 -- one AND a.z = 3" := by
      rw [Clause.joinedText, List.map_cons, List.map_singleton, same, same']
      decide +kernel
    have alone : Clause.joinedText [k] = "a.x = 1 -- one" := by
      rw [Clause.joinedText, List.map_singleton, same]
      decide +kernel
    exact (congrArg _ whole).symm.trans (taken.trans (congrArg _ alone))

/-- A condition with alternatives is regrouped: what satisfies the first alternative passes, though the second condition
does not hold of it. A comment hides the second condition, and a word that is a name at the beginning is none behind
AND. -/
theorem Query.filterAll_regroups :
    let q : Query := .mk [⟨.ofTable "a" "x", none⟩] (some (.table ⟨none, "a"⟩)) none []
    let value : Tree → Bool
      | .form _ [.reference [_, column], _] => column.text = "x"
      | _ => false
    ((q.filterAll ["a.x = 1 OR a.y = 2", "a.z = 3"]).toSql .postgres =
        q.toSql .postgres ++ "\nWHERE a.x = 1 OR a.y = 2 AND a.z = 3" ∧
      (sqlParser.readWhole .postgres "a.x = 1 OR a.y = 2").map (Tree.truth value) = .ok true ∧
      (sqlParser.readWhole .postgres "a.z = 3").map (Tree.truth value) = .ok false ∧
      (sqlParser.readWhole .postgres "a.x = 1 OR a.y = 2 AND a.z = 3").map (Tree.truth value) = .ok true) ∧
    ((q.filterAll ["a.x = 1 -- one", "a.z = 3"]).toSql .postgres =
        q.toSql .postgres ++ "\nWHERE a.x = 1 -- one AND a.z = 3" ∧
      (sqlParser.readFilter .postgres "a.x = 1 -- one").toBool = true ∧
      sqlParser.readFilter .postgres "a.x = 1 -- one AND a.z = 3" =
        .ok (some ⟨"a.x = 1 -- one AND a.z = 3", [⟨"a", "x"⟩]⟩)) ∧
    (sqlParser.readFilter .postgres "any(a.y) = 2").toBool = true ∧
      sqlParser.readFilter .postgres "a.x = 1 AND any(a.y) = 2" = .error .unreadable := by
  refine ⟨⟨?_, ?_, ?_, ?_⟩, ⟨?_, ?_, ?_⟩, ?_, ?_⟩ <;> decide +kernel

end Sql

end Joinery
