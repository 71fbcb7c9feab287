import Joinery.Proofs.Sql.Spelling

/-!
# Reading statements back

What a statement says is known by its tokens. `Told` says so of its parts, and that the tokens say where
the part ends: of expressions, lists, and, by induction on their structure, of queries, sources and chains
of joins (`Query.Legible.told`, `Source.Legible.told`). A chain is told from the left, by the source it
starts with and those that are added (`JoinChain.told_of_sources`).
-/

namespace Joinery.Sql

open Token

variable {α : Type}

/-! ## Telling things by their tokens -/

/-- Where nothing follows but what may follow, tokens that begin like those of `a` are those of `a`, and
nothing else of its kind has them. -/
def Told (kind : α → Prop) (stops : List Token → Prop) (tokens : α → List Token) (a : α) : Prop :=
  ∀ ⦃b r s⦄, kind b → stops r → stops s → tokens a ++ r = tokens b ++ s → a = b ∧ r = s

/-- Another token comes next, or none. -/
def NotNext (t : Token) (r : List Token) : Prop :=
  r.head? ≠ some t

theorem notNext_cons {t u : Token} {r : List Token} (ne : u ≠ t) : NotNext t (u :: r) :=
  fun eq => ne (Option.some.inj eq)

section Lists

variable {kind : α → Prop} {stops : List Token → Prop} {f : α → List Token} (mark : Token)
  (more : List Token)

theorem stops_flatMap {r : List Token} (stop : stops r) (goes_on : ∀ rest, stops (mark :: rest))
    (as : List α) : stops (as.flatMap (fun a => mark :: (more ++ f a)) ++ r) := by
  cases as with
  | nil => exact stop
  | cons a as => exact goes_on _

/-- Things with the same mark before each of them. -/
theorem told_flatMap {as : List α} (told : ∀ a ∈ as, Told kind stops f a)
    (goes_on : ∀ rest, stops (mark :: rest)) :
    Told (fun bs => ∀ b ∈ bs, kind b) (fun r => stops r ∧ NotNext mark r)
      (·.flatMap fun a => mark :: (more ++ f a)) as := by
  induction as with
  | nil =>
    rintro (_ | ⟨b, bs⟩) r s - hr - h
    · exact ⟨rfl, h⟩
    · exact absurd (congrArg List.head? (show r = _ from h)) hr.2
  | cons a as ih =>
    rintro (_ | ⟨b, bs⟩) r s hbs hr hs h
    · exact absurd (congrArg List.head? (show s = _ from h.symm)) hs.2
    · rw [List.forall_mem_cons] at told hbs
      simp only [List.flatMap_cons, List.cons_append, List.append_assoc, List.cons.injEq,
        List.append_cancel_left_eq, true_and] at h
      obtain ⟨rfl, rest⟩ := told.1 hbs.1 (stops_flatMap mark more hr.1 goes_on as)
        (stops_flatMap mark more hs.1 goes_on bs) h
      obtain ⟨rfl, rfl⟩ := ih told.2 hbs.2 hr hs rest
      exact ⟨rfl, rfl⟩

theorem intercalate_map_cons (f : α → List Token) (sep : List Token) (a : α) (as : List α) :
    sep.intercalate ((a :: as).map f) = f a ++ as.flatMap fun a => sep ++ f a := by
  induction as generalizing a with
  | nil => simp
  | cons b as ih =>
    rw [List.flatMap_cons, List.append_assoc, ← ih b, List.map_cons, List.map_cons,
      List.intercalate_cons_cons, ← List.append_assoc]

/-- Things with marks between them, one of them at least. -/
theorem told_intercalate {a : α} {as : List α} (told : ∀ x ∈ a :: as, Told kind stops f x)
    (goes_on : ∀ rest, stops (mark :: rest)) :
    Told (fun bs => bs ≠ [] ∧ ∀ b ∈ bs, kind b) (fun r => stops r ∧ NotNext mark r)
      (fun as => (mark :: more).intercalate (as.map f)) (a :: as) := by
  rintro (_ | ⟨b, bs⟩) r s ⟨some_b, hbs⟩ hr hs h
  · exact absurd rfl some_b
  · rw [List.forall_mem_cons] at told hbs
    simp only [intercalate_map_cons, List.append_assoc] at h
    obtain ⟨rfl, rest⟩ := told.1 hbs.1 (stops_flatMap mark more hr.1 goes_on as)
        (stops_flatMap mark more hs.1 goes_on bs) h
    obtain ⟨rfl, rfl⟩ := told_flatMap mark more told.2 goes_on hbs.2 hr hs rest
    exact ⟨rfl, rfl⟩

end Lists

/-! ## Expressions -/

/-- A column of a table, or an aggregate of one. -/
inductive Expr.Operand : Expr → Prop
  | column (table name : String) : Operand (.ofTable table name)
  | aggregate (op : Aggregate) (table name : String) : Operand (.aggregate op (.ofTable table name))

inductive Expr.Equation : Expr → Prop
  | eq {left right : Expr} (left_operand : left.Operand) (right_operand : right.Operand) :
      Equation (.eq left right)

/-- One equation, or a conjunction of two or more. -/
inductive Expr.Condition : Expr → Prop
  | one {e : Expr} (equation : e.Equation) : Condition e
  | several {e f : Expr} {es : List Expr} (equations : ∀ g ∈ e :: f :: es, g.Equation) :
      Condition (.and (e :: f :: es))

namespace Expr

theorem Operand.told {e : Expr} (operand : e.Operand) :
    Told Operand (fun _ => True) tokens e := by
  intro f r s operand' _ _ h
  cases operand with
  | column table name =>
    cases operand' with
    | column table' name' => simpa [tokens, ofTable, and_assoc] using h
    | aggregate op' table' name' => simp [tokens, ofTable] at h
  | aggregate op table name =>
    cases operand' with
    | column table' name' => simp [tokens, ofTable] at h
    | aggregate op' table' name' =>
      cases op <;> cases op' <;> simp_all [tokens, ofTable, Aggregate.function]

theorem Equation.told {e : Expr} (equation : e.Equation) :
    Told Equation (fun _ => True) tokens e := by
  intro f r s equation' _ _ h
  obtain ⟨left, right⟩ := equation
  obtain ⟨left', right'⟩ := equation'
  simp only [tokens, List.append_assoc] at h
  obtain ⟨rfl, after⟩ := left.told left' trivial trivial h
  obtain ⟨rfl, rest⟩ := right.told right' trivial trivial (List.append_cancel_left after)
  exact ⟨rfl, rest⟩

theorem conjunctionTokens_eq (es : List Expr) :
    conjunctionTokens es = (padded .and).intercalate (es.map tokens) := by
  induction es with
  | nil => rfl
  | cons e es ih =>
    cases es with
    | nil => simp [conjunctionTokens]
    | cons f es =>
      rw [conjunctionTokens, ih, List.map_cons, List.map_cons, List.map_cons,
        List.intercalate_cons_cons]

/-- An expression is spelled as its conjuncts are, with AND between them. -/
theorem tokens_eq_intercalate (e : Expr) : e.tokens = (padded .and).intercalate (e.conjuncts.map tokens) := by
  cases e with
  | and parts => rw [tokens, conjunctionTokens_eq, conjuncts]
  | _ => simp [conjuncts]

theorem conjuncts_foldl_conj (e : Expr) (es : List Expr) :
    (es.foldl conj e).conjuncts = e.conjuncts ++ es.flatMap conjuncts := by
  induction es generalizing e with
  | nil => simp
  | cons f es ih =>
    rw [List.foldl_cons, ih, conj, conjuncts, List.flatMap_cons, List.append_assoc]

theorem Equation.conjuncts {e : Expr} (equation : e.Equation) : e.conjuncts = [e] := by
  cases equation
  rfl

/-- A condition is the conjunction of its conjuncts, each of them an equation. -/
theorem Condition.conjuncts {e : Expr} (condition : e.Condition) :
    (e.conjuncts ≠ [] ∧ ∀ g ∈ e.conjuncts, g.Equation) ∧
      e.tokens = (padded .and).intercalate (e.conjuncts.map tokens) := by
  cases condition with
  | one equation =>
    rw [equation.conjuncts]
    exact ⟨⟨List.cons_ne_nil _ _, List.forall_mem_singleton.2 equation⟩, by simp⟩
  | several equations => exact ⟨⟨List.cons_ne_nil _ _, equations⟩, tokens_eq_intercalate _⟩

theorem Condition.eq_of_conjuncts {e f : Expr} (he : e.Condition) (hf : f.Condition)
    (h : e.conjuncts = f.conjuncts) : e = f := by
  cases he with
  | one he =>
    cases hf with
    | one hf => exact List.singleton_inj.1 (he.conjuncts ▸ hf.conjuncts ▸ h)
    | several => exact absurd (he.conjuncts.symm.trans h) (by simp [Expr.conjuncts])
  | several =>
    cases hf with
    | one hf => exact absurd (hf.conjuncts.symm.trans h.symm) (by simp [Expr.conjuncts])
    | several => exact congrArg and h

theorem Condition.conj {e f : Expr} (he : e.Condition) (hf : f.Equation) : (e.conj f).Condition := by
  obtain ⟨⟨some_e, equations⟩, -⟩ := he.conjuncts
  obtain ⟨g, gs, conjuncts⟩ := List.exists_cons_of_ne_nil some_e
  have all : ∀ h ∈ g :: (gs ++ [f]), h.Equation := by
    intro h mem
    rcases List.mem_append.1 (show h ∈ (g :: gs) ++ [f] from mem) with mem | mem
    · exact equations h (conjuncts ▸ mem)
    · exact List.mem_singleton.1 mem ▸ hf
  rw [Expr.conj, conjuncts, hf.conjuncts, List.cons_append]
  cases gs with
  | nil => exact .several all
  | cons h gs => exact .several all

theorem Condition.foldl_conj {e : Expr} (he : e.Condition) {es : List Expr}
    (equations : ∀ f ∈ es, f.Equation) : (es.foldl Expr.conj e).Condition := by
  induction es generalizing e with
  | nil => exact he
  | cons f es ih =>
    rw [List.forall_mem_cons] at equations
    exact ih (he.conj equations.1) equations.2

theorem Condition.told {e : Expr} (condition : e.Condition) :
    Told Condition (NotNext space) tokens e := by
  intro f r s condition' hr hs h
  obtain ⟨⟨some_e, equations⟩, eq⟩ := condition.conjuncts
  obtain ⟨kind, eq'⟩ := condition'.conjuncts
  rw [eq, eq'] at h
  obtain ⟨g, gs, conjuncts⟩ := List.exists_cons_of_ne_nil some_e
  rw [conjuncts] at h equations
  have lists := told_intercalate space [keyword .and, space]
    (fun g mem => (equations g mem).told) (fun _ => trivial)
  obtain ⟨same, rest⟩ := lists kind ⟨trivial, hr⟩ ⟨trivial, hs⟩ h
  exact ⟨condition.eq_of_conjuncts condition' (conjuncts.trans same), rest⟩

end Expr

/-! ## Select lists, groups and tables -/

theorem SelectItem.told {item : SelectItem} (operand : item.expr.Operand) :
    Told (·.expr.Operand) (NotNext space) SelectItem.tokens item := by
  obtain ⟨e, aliasName⟩ := item
  rintro ⟨f, aliasName'⟩ r s operand' hr hs h
  simp only [SelectItem.tokens, List.append_assoc] at h
  obtain ⟨rfl, after⟩ := operand.told operand' trivial trivial h
  cases aliasName <;> cases aliasName'
  · exact ⟨rfl, after⟩
  · exact absurd (congrArg List.head? (show r = _ from after)) hr
  · exact absurd (congrArg List.head? (show s = _ from after.symm)) hs
  · simpa [aliased, padded] using after

theorem Query.told_selectTokens {items : List SelectItem} (depth : Nat)
    (operands : ∀ item ∈ items, item.expr.Operand) :
    Told (fun items => ∀ item ∈ items, item.expr.Operand) (·.head? = some (line depth))
      (selectTokens depth) items := by
  intro items' r s operands' hr hs h
  -- Items stand a level deeper than what comes after them.
  have deeper : some (line (depth + 1)) ≠ some (line depth) := by simp
  simp only [selectTokens, List.cons_append, List.cons.injEq, true_and] at h
  rcases items with _ | ⟨item, items⟩ <;> rcases items' with _ | ⟨item', items'⟩
  case nil.nil => exact ⟨rfl, h⟩
  case nil.cons =>
    rw [intercalate_map_cons] at h
    exact absurd (hr ▸ congrArg List.head? h.symm) deeper
  case cons.nil =>
    rw [intercalate_map_cons] at h
    exact absurd (hs ▸ congrArg List.head? h) deeper
  case cons.cons =>
    have stop {r : List Token} (hr : r.head? = some (line depth)) :
        NotNext space r ∧ NotNext (punct ',') r := by simp [NotNext, hr]
    have told : ∀ x ∈ item :: items,
        Told (fun item : SelectItem => item.expr.Operand) (NotNext space)
          (fun item => line (depth + 1) :: item.tokens) x := fun x mem y r s operand hr hs h =>
      SelectItem.told (operands x mem) operand hr hs (List.cons.inj h).2
    exact told_intercalate (punct ',') [] told (fun _ => notNext_cons nofun)
      ⟨List.cons_ne_nil _ _, operands'⟩ (stop hr) (stop hs) h

theorem Query.told_groupByTokens {es : List Expr} (depth : Nat) (operands : ∀ e ∈ es, e.Operand) :
    Told (fun es => ∀ e ∈ es, e.Operand)
      (fun r => NotNext (line depth) r ∧ NotNext (punct ',') r) (groupByTokens depth) es := by
  intro es' r s operands' hr hs h
  rcases es with _ | ⟨e, es⟩ <;> rcases es' with _ | ⟨e', es'⟩
  case nil.nil => exact ⟨rfl, h⟩
  case nil.cons => exact absurd (congrArg List.head? (show r = _ from h)) hr.1
  case cons.nil => exact absurd (congrArg List.head? (show s = _ from h.symm)) hs.1
  case cons.cons =>
    simp only [groupByTokens, List.append_assoc, List.append_cancel_left_eq] at h
    exact told_intercalate (punct ',') [space] (fun x mem => (operands x mem).told) (fun _ => trivial)
      ⟨List.cons_ne_nil _ _, operands'⟩ ⟨trivial, hr.2⟩ ⟨trivial, hs.2⟩ h

theorem TableName.told (ref : TableName) :
    Told (fun _ => True) (NotNext (punct '.')) TableName.tokens ref := by
  obtain ⟨schema, table⟩ := ref
  rintro ⟨schema', table'⟩ r s - hr hs h
  cases schema <;> cases schema'
  · simpa [tokens] using h
  · exact absurd (congrArg List.head? (show r = _ from (List.cons.inj h).2)) hr
  · exact absurd (congrArg List.head? (show s = _ from (List.cons.inj h).2.symm)) hs
  · simpa [tokens, and_assoc] using h

/-! ## Legible statements -/

mutual

/-- A query of operands without a condition of its own. -/
inductive Query.Legible : Query → Prop
  | mk {items : List SelectItem} {source : Source} {groupBy : List Expr}
      (operands : ∀ item ∈ items, item.expr.Operand) (source_legible : source.Legible)
      (groups : ∀ e ∈ groupBy, e.Operand) : Query.Legible (.mk items (some source) none groupBy)

inductive Source.Legible : Source → Prop
  | table (ref : TableName) : Source.Legible (.table ref)
  | derived {query : Query} (query_legible : query.Legible) (name : String) :
      Source.Legible (.derived query name)
  | nested {chain : JoinChain} (chain_legible : chain.Legible) : Source.Legible (.nested chain)

inductive JoinChain.Legible : JoinChain → Prop
  | base {source : Source} (source_legible : source.Legible) : JoinChain.Legible (.base source)
  | join {chain : JoinChain} {source : Source} {condition : Expr} (chain_legible : chain.Legible)
      (source_legible : source.Legible) (condition_legible : condition.Condition) :
      JoinChain.Legible (.join chain source condition)

end

/-- What ends a query or a chain: a line of an outer level, if any. -/
def Outer (depth : Nat) (r : List Token) : Prop :=
  ∀ t ∈ r.head?, ∃ level < depth, t = line level

/-! ### Queries -/

/-- The list of a query and what it takes rows from. -/
def Query.bodyTokens (depth : Nat) (body : List SelectItem × Source) : List Token :=
  selectTokens depth body.1 ++ [line depth, keyword .from, space] ++ body.2.tokensAt depth

theorem Query.told_body {depth : Nat} {items : List SelectItem} {source : Source}
    (operands : ∀ item ∈ items, item.expr.Operand)
    (told : Told Source.Legible (NotNext (punct '.')) (Source.tokensAt depth) source) :
    Told (fun body => (∀ item ∈ body.1, item.expr.Operand) ∧ body.2.Legible)
      (NotNext (punct '.')) (bodyTokens depth) (items, source) := by
  rintro ⟨items', source'⟩ r s ⟨operands', legible'⟩ hr hs h
  simp only [bodyTokens, List.append_assoc] at h
  obtain ⟨rfl, after⟩ := told_selectTokens depth operands operands' rfl rfl h
  obtain ⟨rfl, rest⟩ := told legible' hr hs (List.append_cancel_left after)
  exact ⟨rfl, rest⟩

theorem Outer.notNext {depth : Nat} {r : List Token} (outer : Outer depth r) {t : Token}
    (own : ∀ level < depth, t ≠ line level) : NotNext t r := fun eq => by
  obtain ⟨level, lower, rfl⟩ := outer t eq
  exact own level lower rfl

theorem Outer.notNext_line {depth : Nat} {r : List Token} (outer : Outer depth r) :
    NotNext (line depth) r :=
  outer.notNext fun _ lower eq => Nat.ne_of_gt lower (line.inj eq)

theorem Query.told_of_source {depth : Nat} {items : List SelectItem} {source : Source}
    {groupBy : List Expr} (operands : ∀ item ∈ items, item.expr.Operand)
    (told : Told Source.Legible (NotNext (punct '.')) (Source.tokensAt depth) source)
    (groups : ∀ e ∈ groupBy, e.Operand) :
    Told Query.Legible (Outer depth) (Query.tokensAt depth) (.mk items (some source) none groupBy) := by
  intro q r s legible hr hs h
  obtain @⟨items', source', groupBy', operands', source_legible, groups'⟩ := legible
  have stops {r : List Token} (outer : Outer depth r) (es : List Expr) :
      NotNext (punct '.') (groupByTokens depth es ++ r) := by
    cases es with
    | nil => exact outer.notNext nofun
    | cons e es => exact notNext_cons nofun
  have body : bodyTokens depth (items, source) ++ (groupByTokens depth groupBy ++ r) =
      bodyTokens depth (items', source') ++ (groupByTokens depth groupBy' ++ s) := by
    simpa [Query.tokensAt, bodyTokens, conditionTokens] using h
  obtain ⟨same, after⟩ := told_body operands told ⟨operands', source_legible⟩ (stops hr _)
    (stops hs _) body
  obtain ⟨rfl, rfl⟩ := Prod.mk.inj same
  obtain ⟨rfl, rest⟩ := told_groupByTokens depth groups groups' ⟨hr.notNext_line, hr.notNext nofun⟩
    ⟨hs.notNext_line, hs.notNext nofun⟩ after
  exact ⟨rfl, rest⟩

/-! ### Chains -/

namespace JoinChain

def first : JoinChain → Source
  | base source => source
  | join chain _ _ => chain.first

/-- The sources that are joined to the first one, each with its condition. -/
def added : JoinChain → List (Source × Expr)
  | base _ => []
  | join chain source condition => chain.added ++ [(source, condition)]

theorem foldl_added : ∀ chain : JoinChain,
    chain.added.foldl (fun chain step => .join chain step.1 step.2) (.base chain.first) = chain
  | base _ => rfl
  | join chain source condition => by rw [added, List.foldl_concat, first, foldl_added chain]

def stepTokens (depth : Nat) (step : Source × Expr) : List Token :=
  step.1.tokensAt depth ++ padded .on ++ step.2.tokens

theorem tokensAt_eq (depth : Nat) : ∀ chain : JoinChain,
    chain.tokensAt depth = chain.first.tokensAt depth ++
      chain.added.flatMap fun step =>
        line depth :: ([keyword .innerJoin, space] ++ stepTokens depth step)
  | base source => by simp [tokensAt, first, added]
  | join chain source condition => by
    rw [tokensAt, tokensAt_eq depth chain]
    simp [first, added, stepTokens]

theorem Legible.parts {chain : JoinChain} (legible : chain.Legible) :
    chain.first.Legible ∧ ∀ step ∈ chain.added, step.1.Legible ∧ step.2.Condition := by
  match chain, legible with
  | _, .base source_legible => exact ⟨source_legible, nofun⟩
  | _, .join chain_legible source_legible condition =>
    obtain ⟨first_legible, steps⟩ := chain_legible.parts
    refine ⟨first_legible, fun step mem => ?_⟩
    rcases List.mem_append.1 mem with mem | mem
    · exact steps step mem
    · exact List.mem_singleton.1 mem ▸ ⟨source_legible, condition⟩

theorem told_stepTokens {depth : Nat} {step : Source × Expr} (condition : step.2.Condition)
    (told : Told Source.Legible (NotNext (punct '.')) (Source.tokensAt depth) step.1) :
    Told (fun step => step.1.Legible ∧ step.2.Condition) (NotNext space)
      (stepTokens depth) step := by
  obtain ⟨source, e⟩ := step
  rintro ⟨source', e'⟩ r s ⟨legible', condition'⟩ hr hs h
  simp only [stepTokens, List.append_assoc] at h
  have stop (r : List Token) : NotNext (punct '.') (padded .on ++ r) := notNext_cons nofun
  obtain ⟨rfl, after⟩ := told legible' (stop _) (stop _) h
  obtain ⟨rfl, rest⟩ := condition.told condition' hr hs (List.append_cancel_left after)
  exact ⟨rfl, rest⟩

/-- A chain is told by its first source and what is added to it. -/
theorem told_of_sources {depth : Nat} {chain : JoinChain} (legible : chain.Legible)
    (first_told : Told Source.Legible (NotNext (punct '.')) (Source.tokensAt depth) chain.first)
    (added_told : ∀ step ∈ chain.added,
      Told Source.Legible (NotNext (punct '.')) (Source.tokensAt depth) step.1) :
    Told JoinChain.Legible (Outer depth) (JoinChain.tokensAt depth) chain := by
  intro chain' r s legible' hr hs h
  obtain ⟨-, conditions⟩ := legible.parts
  obtain ⟨first_legible', steps'⟩ := legible'.parts
  have stops {r : List Token} (outer : Outer depth r) (steps : List (Source × Expr)) :=
    stops_flatMap (f := stepTokens depth) (line depth) [keyword .innerJoin, space]
      (outer.notNext (t := punct '.') nofun) (fun _ => notNext_cons nofun) steps
  rw [tokensAt_eq, tokensAt_eq, List.append_assoc, List.append_assoc] at h
  obtain ⟨first, after⟩ := first_told first_legible' (stops hr _) (stops hs _) h
  obtain ⟨added, rest⟩ := told_flatMap (line depth) [keyword .innerJoin, space]
    (fun step mem => told_stepTokens (conditions step mem).2 (added_told step mem))
    (fun _ => notNext_cons nofun) steps'
    ⟨hr.notNext nofun, hr.notNext_line⟩ ⟨hs.notNext nofun, hs.notNext_line⟩ after
  refine ⟨?_, rest⟩
  rw [← foldl_added chain, ← foldl_added chain', first, added]

end JoinChain

/-! ### Sources -/

theorem Source.exists_tokensAt (depth : Nat) (source : Source) : ∃ t ts,
    source.tokensAt depth = t :: ts ∧ (t = punct '(' ∨ ∃ name, t = ident name) := by
  rcases source with ⟨⟨_ | schema, table⟩⟩ | ⟨query, name⟩ | ⟨chain⟩
  · exact ⟨_, _, rfl, .inr ⟨table, rfl⟩⟩
  · exact ⟨_, _, rfl, .inr ⟨schema, rfl⟩⟩
  · exact ⟨_, _, rfl, .inl rfl⟩
  · exact ⟨_, _, rfl, .inl rfl⟩

theorem JoinChain.exists_tokensAt (depth : Nat) (chain : JoinChain) : ∃ t ts,
    chain.tokensAt depth = t :: ts ∧ (t = punct '(' ∨ ∃ name, t = ident name) := by
  obtain ⟨t, ts, eq, begins⟩ := chain.first.exists_tokensAt depth
  exact ⟨t, _, by rw [JoinChain.tokensAt_eq, eq, List.cons_append], begins⟩

theorem Query.exists_tokensAt (depth : Nat) (query : Query) :
    ∃ ts, query.tokensAt depth = keyword .select :: ts := by
  rcases query with ⟨items, _ | source, condition, groupBy⟩
  · exact ⟨_, rfl⟩
  · exact ⟨_, rfl⟩

theorem tokensAt_ne {depth : Nat} {query : Query} {chain : JoinChain} {r s : List Token} :
    query.tokensAt depth ++ r ≠ chain.tokensAt depth ++ s := fun h => by
  obtain ⟨ts, eq⟩ := query.exists_tokensAt depth
  obtain ⟨t, us, eq', begins⟩ := chain.exists_tokensAt depth
  rw [eq, eq'] at h
  have same : keyword .select = t := (List.cons.inj h).1
  rcases begins with rfl | ⟨name, rfl⟩
  · cases same
  · cases same

theorem outer_line (depth : Nat) (r : List Token) : Outer (depth + 1) (line depth :: r) :=
  fun _ eq => ⟨depth, Nat.lt_succ_self depth, (Option.some.inj eq).symm⟩

namespace Source

theorem table_ne {depth : Nat} {ref : TableName} {ts r s : List Token} :
    (table ref).tokensAt depth ++ r ≠ punct '(' :: ts ++ s := fun h => by
  rcases ref with ⟨_ | schema, table⟩
  · cases (List.cons.inj h).1
  · cases (List.cons.inj h).1

theorem told_table (depth : Nat) (ref : TableName) :
    Told Legible (NotNext (punct '.')) (tokensAt depth) (.table ref) := by
  intro source r s legible hr hs h
  cases legible with
  | table ref' =>
    obtain ⟨rfl, rest⟩ := ref.told trivial hr hs h
    exact ⟨rfl, rest⟩
  | derived => exact absurd h table_ne
  | nested => exact absurd h table_ne

theorem told_derived {depth : Nat} {query : Query} (name : String)
    (told : Told Query.Legible (Outer (depth + 1)) (Query.tokensAt (depth + 1)) query) :
    Told Legible (NotNext (punct '.')) (tokensAt depth) (.derived query name) := by
  intro source r s legible hr hs h
  cases legible with
  | table => exact absurd h.symm table_ne
  | derived legible name' =>
    simp only [tokensAt, aliased, List.append_assoc, List.append_cancel_left_eq] at h
    obtain ⟨rfl, after⟩ := told legible (outer_line _ _) (outer_line _ _) h
    obtain ⟨rfl, rest⟩ : name = name' ∧ r = s := by simpa [padded] using after
    exact ⟨rfl, rest⟩
  | nested =>
    simp only [tokensAt, List.append_assoc, List.append_cancel_left_eq] at h
    exact absurd h tokensAt_ne

theorem told_nested {depth : Nat} {chain : JoinChain}
    (told : Told JoinChain.Legible (Outer (depth + 1)) (JoinChain.tokensAt (depth + 1)) chain) :
    Told Legible (NotNext (punct '.')) (tokensAt depth) (.nested chain) := by
  intro source r s legible hr hs h
  cases legible with
  | table => exact absurd h.symm table_ne
  | derived =>
    simp only [tokensAt, List.append_assoc, List.append_cancel_left_eq] at h
    exact absurd h.symm tokensAt_ne
  | nested legible =>
    simp only [tokensAt, List.append_assoc, List.append_cancel_left_eq] at h
    obtain ⟨rfl, after⟩ := told legible (outer_line _ _) (outer_line _ _) h
    exact ⟨rfl, by simpa using after⟩

end Source

/-! ### All of them -/

mutual

theorem Query.Legible.told (depth : Nat) : ∀ {query : Query}, query.Legible →
    Told Query.Legible (Outer depth) (Query.tokensAt depth) query
  | _, .mk operands source_legible groups =>
    Query.told_of_source operands (source_legible.told depth) groups

theorem Source.Legible.told (depth : Nat) : ∀ {source : Source}, source.Legible →
    Told Source.Legible (NotNext (punct '.')) (Source.tokensAt depth) source
  | _, .table ref => Source.told_table depth ref
  | _, .derived query_legible name => Source.told_derived name (query_legible.told (depth + 1))
  | _, .nested chain_legible => by
    obtain ⟨first_told, added_told⟩ := chain_legible.told_sources (depth + 1)
    exact Source.told_nested (JoinChain.told_of_sources chain_legible first_told added_told)

theorem JoinChain.Legible.told_sources (depth : Nat) : ∀ {chain : JoinChain}, chain.Legible →
    Told Source.Legible (NotNext (punct '.')) (Source.tokensAt depth) chain.first ∧
      ∀ step ∈ chain.added, Told Source.Legible (NotNext (punct '.')) (Source.tokensAt depth) step.1
  | _, .base source_legible => ⟨source_legible.told depth, nofun⟩
  | _, .join chain_legible source_legible _ => by
    obtain ⟨first_told, added_told⟩ := chain_legible.told_sources depth
    have source_told := source_legible.told depth
    refine ⟨first_told, fun step mem => ?_⟩
    rcases List.mem_append.1 mem with mem | mem
    · exact added_told step mem
    · exact List.mem_singleton.1 mem ▸ source_told

end

end Joinery.Sql
