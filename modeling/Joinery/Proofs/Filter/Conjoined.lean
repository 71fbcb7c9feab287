import Mathlib.Order.PropInstances
import Joinery.Proofs.Filter.Climbing

/-!
# Conditions joined by AND

Every filter is a `Clause`: its text has the tokens of a condition (`Climbing.Laws.exists_clause`). Texts of clauses with
AND between them are one condition again (`Clause.readWhole_joined`), but not the conjunction of the clauses: AND binds
more tightly than OR, so the last alternative of a clause and the first alternative of the next one become one
(`Condition.andThen`). What all clauses let through, the whole lets through (`Clause.le_value_joined`); it lets through no
more where no clause has alternatives (`Clause.le_value_joined_iff`). A text that ends in a comment takes the clauses
behind it with it (`Clause.readWhole_joined_of_comment`).
-/

namespace Joinery.Filter.SqlParser

open Text

variable {r : SqlParser} {c : r.Climbing}

/-! ## Values of chains -/

namespace Chain

variable {j : Joint} {α : Type}

/-- A chain with one more in front. -/
def cons (a : α) (word : c.Word j) (k : Chain c j α) : Chain c j α :=
  ⟨a, (word, k.first) :: k.more⟩

@[elab_as_elim]
theorem induction {motive : Chain c j α → Prop} (one : ∀ a, motive ⟨a, []⟩)
    (cons : ∀ a word k, motive k → motive (cons a word k)) (k : Chain c j α) : motive k := by
  obtain ⟨a, more⟩ := k
  induction more generalizing a with
  | nil => exact one a
  | cons x more ih => exact cons a x.1 ⟨x.2, more⟩ (ih x.2)

theorem tokens_cons (f : α → List r.Token) (a : α) (word : c.Word j) (k : Chain c j α) :
    (cons a word k).tokens f = f a ++ word.1 :: k.tokens f := by
  rw [tokens, cons, List.flatMap_cons]
  rfl

theorem items_one (a : α) : items ⟨a, ([] : List (c.Word j × α))⟩ = [a] :=
  rfl

theorem items_cons (a : α) (word : c.Word j) (k : Chain c j α) : (cons a word k).items = a :: k.items :=
  rfl

variable {β : Type} {op : β → β → β} {value : r.Expr → β} {g : α → r.Expr}

theorem value_foldl (joins : ∀ left right, value (c.join j left right) = op (value left) (value right))
    (more : List (c.Word j × α)) (e : r.Expr) : value (more.foldl (fun left (_, a) => c.join j left (g a)) e) =
      (more.map fun x => value (g x.2)).foldl op (value e) := by
  induction more generalizing e with
  | nil => rfl
  | cons x more ih =>
    rw [List.foldl_cons, ih, joins]
    rfl

/-- The value of a chain, where a join has the values of what it joins. -/
theorem value_cons [Std.Associative op]
    (joins : ∀ left right, value (c.join j left right) = op (value left) (value right)) (a : α) (word : c.Word j)
    (k : Chain c j α) : value ((cons a word k).expr g) = op (value (g a)) (value (k.expr g)) := by
  rw [expr, value_foldl joins, expr, value_foldl joins]
  exact List.foldl_assoc

theorem value_append [Std.Associative op]
    (joins : ∀ left right, value (c.join j left right) = op (value left) (value right)) (k k' : Chain c j α)
    (word : c.Word j) : value ((k.append word k').expr g) = op (value (k.expr g)) (value (k'.expr g)) := by
  induction k using induction with
  | one a => exact value_cons joins a word k'
  | cons a word' k ih =>
    have same : (cons a word' k).append word k' = cons a word' (k.append word k') := rfl
    have assoc : ∀ x y z, op (op x y) z = op x (op y z) := Std.Associative.assoc
    rw [same, value_cons joins, ih, value_cons joins, assoc]

theorem le_value_iff [SemilatticeInf β]
    (joins : ∀ left right, value (c.join j left right) = value left ⊓ value right) (k : Chain c j α) {x : β} :
    x ≤ value (k.expr g) ↔ ∀ a ∈ k.items, x ≤ value (g a) := by
  induction k using induction with
  | one a =>
    rw [items_one, List.forall_mem_singleton]
    rfl
  | cons a word k ih => rw [value_cons joins, le_inf_iff, ih, items_cons, List.forall_mem_cons]

theorem value_eq_flatMap {γ : Type} {value : r.Expr → List γ}
    (joins : ∀ left right, value (c.join j left right) = value left ++ value right) (k : Chain c j α) :
    value (k.expr g) = k.items.flatMap fun a => value (g a) := by
  induction k using induction with
  | one a => exact (List.flatMap_singleton ..).symm
  | cons a word k ih => rw [value_cons joins, ih, items_cons, List.flatMap_cons]

end Chain

namespace Climbing

/-! ## Conditions and AND -/

namespace Condition

/-- The operands of each conjunction. -/
def alternatives (k : c.Condition) : List (List r.Piece) :=
  k.items.map Chain.items

theorem pieces_eq_append (k : c.Condition) :
    k.pieces = Chain.items k.first ++ (k.more.map (·.2)).flatMap Chain.items := by
  rw [List.flatMap_map]
  rfl

theorem pieces_eq_flatMap (k : c.Condition) : k.pieces = k.items.flatMap Chain.items :=
  k.pieces_eq_append

variable (first : c.Conjunction) (or : c.Word .or) (k : c.Condition)

theorem tokens_cons : tokens (Chain.cons first or k) = first.tokens ++ or.1 :: k.tokens :=
  Chain.tokens_cons Conjunction.tokens first or k

theorem alternatives_cons : alternatives (Chain.cons first or k) = Chain.items first :: k.alternatives :=
  rfl

theorem pieces_cons : pieces (Chain.cons first or k) = Chain.items first ++ k.pieces := by
  rw [pieces_eq_flatMap, Chain.items_cons, List.flatMap_cons, ← pieces_eq_flatMap]

/-- What the conjunctions of a condition, AND and another condition make together. -/
def conjunctionsThen (word : c.Word .and) (k' : c.Condition) (first : c.Conjunction) :
    List (c.Word .or × c.Conjunction) → c.Condition
  | [] => ⟨Chain.append first word k'.first, k'.more⟩
  | (or, next) :: more => Chain.cons first or (conjunctionsThen word k' next more)

/-- What a condition, AND and another condition make together. -/
def andThen (k : c.Condition) (word : c.Word .and) (k' : c.Condition) : c.Condition :=
  conjunctionsThen word k' k.first k.more

/-- Two lists of alternatives, where the last one of the first list and the first one of the second become one. -/
def mergeAlternatives : List (List r.Piece) → List (List r.Piece) → List (List r.Piece)
  | [], others => others
  | [last], first :: more => (last ++ first) :: more
  | first :: more, others => first :: mergeAlternatives more others

theorem mergeAlternatives_nil (alternatives : List (List r.Piece)) :
    mergeAlternatives alternatives [] = alternatives := by
  induction alternatives with
  | nil => rfl
  | cons first more ih =>
    rw [mergeAlternatives, ih]
    exact nofun

variable (word : c.Word .and) (k' : c.Condition)

theorem andThen_one (last : c.Conjunction) :
    andThen ⟨last, []⟩ word k' = ⟨last.append word k'.first, k'.more⟩ :=
  rfl

theorem andThen_cons (first : c.Conjunction) (or : c.Word .or) (k : c.Condition) :
    andThen (Chain.cons first or k) word k' = Chain.cons first or (k.andThen word k') :=
  rfl

theorem tokens_andThen (k : c.Condition) : (k.andThen word k').tokens = k.tokens ++ word.1 :: k'.tokens := by
  induction k using Chain.induction with
  | one last =>
    have both : Conjunction.tokens (Chain.append last word k'.first) = last.tokens ++ word.1 :: k'.first.tokens :=
      Chain.tokens_append last word k'.first
    have alone : tokens (⟨last, []⟩ : c.Condition) = last.tokens := List.append_nil _
    rw [andThen_one, tokens, Chain.tokens, both, List.append_assoc, alone]
    rfl
  | cons first or k ih => rw [andThen_cons, tokens_cons, ih, tokens_cons, List.append_assoc, List.cons_append]

theorem alternatives_andThen (k : c.Condition) :
    (k.andThen word k').alternatives = mergeAlternatives k.alternatives k'.alternatives := by
  induction k using Chain.induction with
  | one last =>
    have both := Chain.items_append last word k'.first
    rw [andThen_one, alternatives, Chain.items, List.map_cons, both]
    rfl
  | cons first or k ih =>
    rw [andThen_cons, alternatives_cons, ih]
    rfl

theorem pieces_andThen (k : c.Condition) : (k.andThen word k').pieces = k.pieces ++ k'.pieces := by
  induction k using Chain.induction with
  | one last =>
    have both := Chain.items_append last word k'.first
    have alone : pieces (⟨last, []⟩ : c.Condition) = Chain.items last :=
      (pieces_eq_append _).trans (List.append_nil _)
    rw [andThen_one, pieces_eq_append, both, alone, pieces_eq_append k', List.append_assoc]
  | cons first or k ih => rw [andThen_cons, pieces_cons, ih, pieces_cons, List.append_assoc]

theorem more_andThen {k k' : c.Condition} (single : k.more = []) (single' : k'.more = []) :
    (k.andThen word k').more = [] := by
  obtain ⟨last, more⟩ := k
  cases single
  exact single'

end Condition

/-! ## Truth -/

/-- AND is a meet and OR a join of truth values. -/
structure IsTruth (c : r.Climbing) {β : Type} [Lattice β] (value : r.Expr → β) : Prop where
  and (left right : r.Expr) : value (c.join .and left right) = value left ⊓ value right
  or (left right : r.Expr) : value (c.join .or left right) = value left ⊔ value right

namespace IsTruth

variable {β : Type} [DistribLattice β] {value : r.Expr → β} (truth : c.IsTruth value)

include truth

theorem value_append (k k' : c.Conjunction) (word : c.Word .and) :
    value (Conjunction.expr (Chain.append k word k')) = value k.expr ⊓ value k'.expr :=
  Chain.value_append truth.and k k' word

theorem value_cons (first : c.Conjunction) (or : c.Word .or) (k : c.Condition) :
    value (Condition.expr (Chain.cons first or k)) = value first.expr ⊔ value k.expr :=
  Chain.value_cons truth.or first or k

/-- What both conditions let through, they let through together. -/
theorem le_value_andThen (k k' : c.Condition) (word : c.Word .and) :
    value k.expr ⊓ value k'.expr ≤ value (k.andThen word k').expr := by
  induction k using Chain.induction with
  | one last =>
    induction k' using Chain.induction with
    | one first => exact (truth.value_append last first word).ge
    | cons first or k' _ =>
      have both : (Condition.andThen ⟨last, []⟩ word (Chain.cons first or k')) =
          Chain.cons (Chain.append last word first) or k' := rfl
      rw [both, truth.value_cons, truth.value_cons, truth.value_append, inf_sup_left]
      exact sup_le_sup_left inf_le_right _
  | cons first or k ih =>
    rw [Condition.andThen_cons, truth.value_cons, truth.value_cons, inf_sup_right]
    exact sup_le_sup inf_le_left ih

/-- Conditions without alternatives let nothing else through together. -/
theorem value_andThen_of_single {k k' : c.Condition} (single : k.more = []) (single' : k'.more = [])
    (word : c.Word .and) : value (k.andThen word k').expr = value k.expr ⊓ value k'.expr := by
  obtain ⟨last, more⟩ := k
  obtain ⟨first, more'⟩ := k'
  cases single
  cases single'
  exact truth.value_append last first word

end IsTruth

/-! ## Columns of conditions -/

section Columns

variable {parts : r.Expr → List r.Expr} (laws : c.Laws parts) (order : r.VisitsParts parts) {d : Dialect}

include laws

theorem Laws.nodes_join (j : Joint) (left right : r.Expr) :
    order.nodes (c.join j left right) = c.join j left right :: (order.nodes left ++ order.nodes right) := by
  rw [order.nodes_eq, laws.parts_join, List.flatMap_cons, List.flatMap_singleton]

theorem Laws.mentioned_join (j : Joint) (left right : r.Expr) :
    order.mentioned d (c.join j left right) = order.mentioned d left ++ order.mentioned d right := by
  rw [VisitsParts.mentioned, laws.nodes_join order, List.filterMap_cons, laws.mention_join, List.filterMap_append]
  rfl

theorem Laws.isQualified_join (j : Joint) (left right : r.Expr) :
    order.IsQualified (c.join j left right) = (order.IsQualified left ∧ order.IsQualified right) := by
  refine propext ?_
  rw [VisitsParts.IsQualified, laws.nodes_join order, List.forall_mem_cons, List.forall_mem_append, laws.mention_join]
  exact and_iff_right nofun

/-- The columns that a condition mentions are those of its operands. -/
theorem Laws.mentioned_condition (k : c.Condition) :
    order.mentioned d k.expr = k.pieces.flatMap fun o => order.mentioned d o.expr := by
  have conjunctions := Chain.value_eq_flatMap (laws.mentioned_join order (d := d) .or) (g := Conjunction.expr) k
  have operands (first : c.Conjunction) : order.mentioned d first.expr = _ :=
    Chain.value_eq_flatMap (laws.mentioned_join order (d := d) .and) (g := Piece.expr) first
  rw [Condition.expr, conjunctions, Condition.pieces_eq_flatMap, List.flatMap_assoc]
  exact List.flatMap_congr fun first _ => operands first

theorem Laws.isQualified_condition_iff (k : c.Condition) :
    order.IsQualified k.expr ↔ ∀ o ∈ k.pieces, order.IsQualified o.expr := by
  have conjunctions := Chain.le_value_iff (laws.isQualified_join order .or) (g := Conjunction.expr) k (x := True)
  have operands (first : c.Conjunction) : True ≤ order.IsQualified first.expr ↔ _ :=
    Chain.le_value_iff (laws.isQualified_join order .and) (g := Piece.expr) first
  simp only [le_Prop_eq, true_imp_iff] at conjunctions operands
  rw [Condition.expr, conjunctions, Condition.pieces_eq_flatMap, List.forall_mem_flatMap]
  exact forall₂_congr fun first _ => operands first

end Columns

end Climbing

/-! ## Texts -/

/-- What a parser promises about the tokens of a text: a blank, AND and a blank add one token, unless the text before ends
in a comment that goes on to the end of its line. -/
structure CutsTexts (r : SqlParser) (and : r.Token) (endsInComment : Dialect → String → Prop) : Prop where
  tokens_empty (d : Dialect) : r.tokens? d "" = some []
  tokens_and {d : Dialect} {a b : String} {ts ts' : List r.Token} (cut : r.tokens? d a = some ts)
    (closed : ¬ endsInComment d a) (cut' : r.tokens? d b = some ts') :
    r.tokens? d (a ++ " AND " ++ b) = some (ts ++ and :: ts')
  tokens_comment {d : Dialect} {a b : String} {ts ts' : List r.Token} (cut : r.tokens? d a = some ts)
    (opened : endsInComment d a) (cut' : r.tokens? d (String.ofList (afterLine b.toList)) = some ts') :
    r.tokens? d (a ++ " " ++ b) = some (ts ++ ts')

theorem intercalate_cons (sep text : String) {more : List String} (ne : more ≠ []) :
    sep.intercalate (text :: more) = text ++ sep ++ sep.intercalate more := by
  obtain ⟨first, more, rfl⟩ := List.exists_cons_of_ne_nil ne
  exact String.intercalate_cons_cons

theorem intercalate_append_cons (sep : String) (front : List String) (text : String) (back : List String) :
    sep.intercalate (front ++ text :: back) = sep.intercalate (front ++ [sep.intercalate (text :: back)]) := by
  induction front with
  | nil => exact String.intercalate_singleton.symm
  | cons first front ih =>
    rw [List.cons_append, List.cons_append, intercalate_cons _ _ (by simp), intercalate_cons _ _ (by simp), ih]

theorem afterLine_of_not_mem {cs : List Char} (one_line : '\n' ∉ cs) : afterLine cs = [] := by
  have nothing : cs.dropWhile (· ≠ '\n') = [] :=
    List.dropWhile_eq_nil_iff.2 fun c mem => decide_eq_true fun eq => one_line (eq ▸ mem)
  rw [afterLine, nothing, List.drop_nil]

/-! ## Clauses -/

/-- A filter and the condition that its text is. -/
structure Clause (c : r.Climbing) (d : Dialect) where
  filter : FilterExpr
  accepted : r.readFilter d filter.text = .ok (some filter)
  condition : c.Condition
  tokens : r.tokens? d filter.text = some condition.tokens
  read : r.expression d condition.tokens = some (condition.expr, [])
  plain : ∀ o ∈ condition.others, c.IsPlain o.tokens

variable {d : Dialect} {parts : r.Expr → List r.Expr}

/-- Every filter is a clause. -/
theorem Climbing.Laws.exists_clause (laws : c.Laws parts) {text : String} {f : FilterExpr}
    (accepted : r.readFilter d text = .ok (some f)) :
    ∃ k : Clause c d, k.filter = f ∧ ∀ o ∈ k.condition.pieces, c.IsOperand d o := by
  have again := readFilter_text accepted
  obtain ⟨-, e, columns, read, -, rfl⟩ := readFilter_eq_some_iff.1 accepted
  obtain ⟨ts, cut, whole⟩ := readWhole_eq_ok_iff.1 read
  obtain ⟨condition, rfl, rfl, operands, plain⟩ := laws.exists_condition whole
  exact ⟨⟨_, again, condition, cut, whole, plain⟩, rfl, operands⟩

namespace Clause

/-- A text that is a condition whose operands can stand where they do. -/
def ofCondition (laws : c.Laws parts) (order : r.VisitsParts parts) (text : String) (condition : c.Condition)
    (some_text : isBlankText text = false) (trimmed : trim text = text)
    (tokens : r.tokens? d text = some condition.tokens) (stands : ∀ o ∈ condition.pieces, c.Stands d o)
    (plain : ∀ o ∈ condition.others, c.IsPlain o.tokens) (qualified : order.IsQualified condition.expr) :
    Clause c d where
  filter := ⟨text, (order.mentioned d condition.expr).eraseDups⟩
  accepted := by
    refine readFilter_eq_some_iff.2 ⟨some_text, condition.expr, _, ?_, order.columns_eq_ok qualified, ?_⟩
    · rw [trimmed]
      exact readWhole_eq_ok_iff.2 ⟨_, tokens, laws.expression_condition stands plain⟩
    · rw [trimmed]
  condition := condition
  tokens := tokens
  read := laws.expression_condition stands plain
  plain := plain

section

variable (k : Clause c d)

theorem text_spec : isBlankText k.filter.text = false ∧ trim k.filter.text = k.filter.text := by
  obtain ⟨some_text, e, columns, -, -, same⟩ := readFilter_eq_some_iff.1 k.accepted
  exact ⟨some_text, (congrArg FilterExpr.text same).symm⟩

theorem readWhole : r.readWhole d k.filter.text = .ok k.condition.expr :=
  readWhole_eq_ok_iff.2 ⟨_, k.tokens, k.read⟩

theorem columns_expr : r.columns d k.condition.expr = .ok k.filter.columns := by
  obtain ⟨-, e, columns, read, found, same⟩ := readFilter_eq_some_iff.1 k.accepted
  rw [k.text_spec.2, k.readWhole] at read
  cases read
  rw [found, same]

end

/-- The texts of clauses with AND between them. -/
def joinedText (ks : List (Clause c d)) : String :=
  " AND ".intercalate (ks.map (·.filter.text))

/-- The condition that they make together. -/
def joined (word : c.Word .and) (k : Clause c d) : List (Clause c d) → c.Condition
  | [] => k.condition
  | k' :: ks => k.condition.andThen word (joined word k' ks)

variable (word : c.Word .and) (k : Clause c d) (ks : List (Clause c d))

theorem joinedText_cons (k' : Clause c d) :
    joinedText (k :: k' :: ks) = k.filter.text ++ " AND " ++ joinedText (k' :: ks) :=
  String.intercalate_cons_cons ..

theorem joinedText_append_cons (front : List (Clause c d)) : joinedText (front ++ k :: ks) =
    " AND ".intercalate (front.map (·.filter.text) ++ [joinedText (k :: ks)]) := by
  rw [joinedText, List.map_append, List.map_cons, intercalate_append_cons]
  rfl

theorem pieces_joined : (joined word k ks).pieces = (k :: ks).flatMap (·.condition.pieces) := by
  induction ks generalizing k with
  | nil => exact (List.flatMap_singleton ..).symm
  | cons k' ks ih =>
    rw [joined, Climbing.Condition.pieces_andThen, ih]
    rfl

theorem others_joined : (joined word k ks).others = k.condition.others ++ ks.flatMap (·.condition.pieces) := by
  have whole := pieces_joined word k ks
  rw [List.flatMap_cons] at whole
  exact (List.cons.inj whole).2

/-- The alternatives of all clauses, but the last one of each clause and the first one of the next become one. -/
theorem alternatives_joined : (joined word k ks).alternatives =
    ((k :: ks).map (·.condition.alternatives)).foldr Climbing.Condition.mergeAlternatives [] := by
  induction ks generalizing k with
  | nil => exact (Climbing.Condition.mergeAlternatives_nil _).symm
  | cons k' ks ih =>
    rw [joined, Climbing.Condition.alternatives_andThen, ih]
    rfl

/-! ## The texts of clauses -/

section Texts

variable {word k ks} {endsInComment : Dialect → String → Prop} (texts : r.CutsTexts word.1 endsInComment)

include texts

theorem tokens_joined (closed : ∀ k' ∈ (k :: ks).dropLast, ¬ endsInComment d k'.filter.text) :
    r.tokens? d (joinedText (k :: ks)) = some (joined word k ks).tokens := by
  induction ks generalizing k with
  | nil => exact k.tokens
  | cons k' ks ih =>
    rw [List.dropLast_cons_cons, List.forall_mem_cons] at closed
    rw [joinedText_cons, joined, Climbing.Condition.tokens_andThen]
    exact texts.tokens_and k.tokens closed.1 (ih closed.2)

omit texts in
theorem not_mem_joinedText {char : Char} (other : char ∉ " AND ".toList)
    (all : ∀ k ∈ ks, char ∉ k.filter.text.toList) : char ∉ (joinedText ks).toList := by
  induction ks with
  | nil => exact List.not_mem_nil
  | cons k ks ih =>
    rw [List.forall_mem_cons] at all
    cases ks with
    | nil => exact all.1
    | cons k' ks =>
      rw [joinedText_cons, String.toList_append, String.toList_append, List.mem_append, List.mem_append, not_or, not_or]
      exact ⟨⟨all.1, other⟩, ih all.2⟩

/-- Behind a text that ends in a comment, the rest of its line is not read. -/
theorem tokens_joined_of_comment (opened : endsInComment d k.filter.text)
    (one_line : ∀ k' ∈ ks, '\n' ∉ k'.filter.text.toList) :
    r.tokens? d (joinedText (k :: ks)) = some k.condition.tokens := by
  cases ks with
  | nil => exact k.tokens
  | cons k' ks =>
    have spaced : " AND " = " " ++ "AND " := rfl
    have behind : '\n' ∉ ("AND " ++ joinedText (k' :: ks)).toList := by
      rw [String.toList_append, List.mem_append, not_or]
      exact ⟨by decide, not_mem_joinedText (by decide) one_line⟩
    have nothing : r.tokens? d (String.ofList (afterLine ("AND " ++ joinedText (k' :: ks)).toList)) = some [] := by
      rw [afterLine_of_not_mem behind]
      exact texts.tokens_empty d
    have cut := texts.tokens_comment k.tokens opened nothing
    rw [List.append_nil] at cut
    simpa only [joinedText_cons, spaced, String.append_assoc] using cut

theorem tokens_intercalate {front : List (Clause c d)} (closed : ∀ k ∈ front, ¬ endsInComment d k.filter.text)
    {text : String} {ts : List r.Token} (cut : r.tokens? d text = some ts) :
    r.tokens? d (" AND ".intercalate (front.map (·.filter.text) ++ [text])) =
      some (front.flatMap (fun k => k.condition.tokens ++ [word.1]) ++ ts) := by
  induction front with
  | nil => exact String.intercalate_singleton ▸ cut
  | cons k front ih =>
    rw [List.forall_mem_cons] at closed
    rw [List.map_cons, List.cons_append, intercalate_cons _ _ (by simp),
      texts.tokens_and k.tokens closed.1 (ih closed.2), List.flatMap_cons]
    simp

/-- A text that ends in a comment takes the texts behind it with it, if none of them has a second line. -/
theorem readWhole_joined_of_comment {front : List (Clause c d)} (closed : ∀ k ∈ front, ¬ endsInComment d k.filter.text)
    (opened : endsInComment d k.filter.text) (one_line : ∀ k' ∈ ks, '\n' ∉ k'.filter.text.toList) :
    r.readWhole d (joinedText (front ++ k :: ks)) = r.readWhole d (joinedText (front ++ [k])) := by
  have all := tokens_intercalate texts closed (tokens_joined_of_comment texts opened one_line)
  have front_only := tokens_intercalate texts closed k.tokens
  have same : r.tokens? d (joinedText (front ++ k :: ks)) = r.tokens? d (joinedText (front ++ [k])) := by
    rw [joinedText_append_cons, joinedText_append_cons, all]
    exact front_only.symm
  rw [SqlParser.readWhole, same, SqlParser.readWhole]

end Texts

/-! ## Reading clauses together -/

/-- No clause changes how another one is read: none but the last ends in a comment, operands can stand where they do
behind each other, and no clause behind another one begins like several values. -/
structure Separate (endsInComment : Dialect → String → Prop) (k : Clause c d) (ks : List (Clause c d)) : Prop where
  closed : ∀ k' ∈ (k :: ks).dropLast, ¬ endsInComment d k'.filter.text
  stands : ∀ k' ∈ k :: ks, ∀ o ∈ k'.condition.pieces, c.Stands d o
  plain : ∀ k' ∈ ks, c.IsPlain k'.condition.first.first.tokens

section Reading

variable {word k ks} {endsInComment : Dialect → String → Prop} (texts : r.CutsTexts word.1 endsInComment)
  (laws : c.Laws parts) (separate : Separate endsInComment k ks)

include texts laws separate in
/-- The texts of clauses are one condition when AND stands between them. -/
theorem readWhole_joined : r.readWhole d (joinedText (k :: ks)) = .ok (joined word k ks).expr := by
  have stands : ∀ o ∈ (joined word k ks).pieces, c.Stands d o := by
    rw [pieces_joined, List.forall_mem_flatMap]
    exact separate.stands
  have plain : ∀ o ∈ (joined word k ks).others, c.IsPlain o.tokens := by
    rw [others_joined, List.forall_mem_append, List.forall_mem_flatMap]
    exact ⟨k.plain, fun k' mem => List.forall_mem_cons.2 ⟨separate.plain k' mem, k'.plain⟩⟩
  exact readWhole_eq_ok_iff.2 ⟨_, tokens_joined texts separate.closed, laws.expression_condition stands plain⟩

theorem joinedText_spec (k : Clause c d) (ks : List (Clause c d)) :
    isBlankText (joinedText (k :: ks)) = false ∧ trim (joinedText (k :: ks)) = joinedText (k :: ks) := by
  induction ks generalizing k with
  | nil => exact k.text_spec
  | cons k' ks ih =>
    have ne {text : String} (some_text : isBlankText text = false) : text.toList ≠ [] := by
      intro nothing
      rw [isBlankText, nothing] at some_text
      cases some_text
    obtain ⟨first, first_trimmed⟩ := k.text_spec
    obtain ⟨behind, behind_trimmed⟩ := ih k'
    rw [joinedText_cons]
    constructor
    · rw [isBlankText, String.toList_append, String.toList_append, List.all_append, List.all_append, ← isBlankText, first]
      rfl
    · rw [trim_eq_self_iff] at first_trimmed behind_trimmed ⊢
      rw [String.toList_append, String.toList_append]
      exact trimChars_append_of_trimmed first_trimmed (ne first) behind_trimmed (ne behind) _

include laws in
theorem mentioned_joined (order : r.VisitsParts parts) : order.mentioned d (joined word k ks).expr =
    (k :: ks).flatMap fun k => order.mentioned d k.condition.expr := by
  rw [laws.mentioned_condition order, pieces_joined, List.flatMap_assoc]
  exact List.flatMap_congr fun k' _ => (laws.mentioned_condition order k'.condition).symm

variable (order : r.VisitsParts parts)

include texts laws separate order in
/-- The texts of clauses are a filter when AND stands between them, over the columns of all of them. -/
theorem readFilter_joined : r.readFilter d (joinedText (k :: ks)) =
    .ok (some ⟨joinedText (k :: ks), ((k :: ks).flatMap (·.filter.columns)).eraseDups⟩) := by
  obtain ⟨some_text, trimmed⟩ := joinedText_spec k ks
  have columns (k' : Clause c d) := order.columns_eq_ok_iff.1 k'.columns_expr
  have qualified : order.IsQualified (joined word k ks).expr := by
    rw [laws.isQualified_condition_iff order, pieces_joined, List.forall_mem_flatMap]
    exact fun k' _ => (laws.isQualified_condition_iff order _).1 (columns k').1
  have found : (order.mentioned d (joined word k ks).expr).eraseDups =
      ((k :: ks).flatMap (·.filter.columns)).eraseDups := by
    rw [mentioned_joined laws order]
    refine eraseDups_flatMap_congr fun k' _ => ?_
    rw [(columns k').2, eraseDups_of_nodup (nodup_eraseDups _)]
  refine readFilter_eq_some_iff.2 ⟨some_text, _, _, ?_, order.columns_eq_ok qualified, ?_⟩
  · rw [trimmed]
    exact readWhole_joined texts laws separate
  · rw [trimmed, found]

end Reading

/-! ## What clauses let through together -/

section Truth

variable {word k ks} {β : Type} [DistribLattice β] {value : r.Expr → β} (truth : c.IsTruth value)

include truth in
/-- What all clauses let through, they let through together. -/
theorem le_value_joined {x : β} (below : ∀ k' ∈ k :: ks, x ≤ value k'.condition.expr) :
    x ≤ value (joined word k ks).expr := by
  induction ks generalizing k with
  | nil => exact below k List.mem_cons_self
  | cons k' ks ih =>
    rw [List.forall_mem_cons] at below
    exact (le_inf below.1 (ih below.2)).trans (truth.le_value_andThen _ _ word)

include truth in
/-- Clauses without alternatives let nothing else through. -/
theorem le_value_joined_iff (single : ∀ k' ∈ k :: ks, k'.condition.more = []) {x : β} :
    x ≤ value (joined word k ks).expr ↔ ∀ k' ∈ k :: ks, x ≤ value k'.condition.expr := by
  have whole : (joined word k ks).more = [] ∧
      (x ≤ value (joined word k ks).expr ↔ ∀ k' ∈ k :: ks, x ≤ value k'.condition.expr) := by
    induction ks generalizing k with
    | nil =>
      rw [List.forall_mem_singleton]
      exact ⟨single k List.mem_cons_self, Iff.rfl⟩
    | cons k' ks ih =>
      rw [List.forall_mem_cons] at single
      obtain ⟨one, behind⟩ := ih single.2
      rw [joined, truth.value_andThen_of_single single.1 one, le_inf_iff, behind, List.forall_mem_cons (l := k' :: ks)]
      exact ⟨Climbing.Condition.more_andThen word single.1 one, Iff.rfl⟩
  exact whole.2

end Truth

end Clause

end Joinery.Filter.SqlParser
