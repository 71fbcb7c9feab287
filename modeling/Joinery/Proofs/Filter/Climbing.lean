import Joinery.Proofs.Filter.Attribution

/-!
# Expressions read by precedence

A parser by precedence reads an expression and then operators, each with what stands to its right, as long as they bind
more tightly than a given number (`Climbing.Reads`). AND and OR are the operators that bind least, so a whole text is
alternatives joined by OR, each of them operands joined by AND: every text that is read is a `Condition`
(`Climbing.Laws.exists_condition`). The other way round, the tokens of a condition are read as its expression, if its
operands can stand before and behind AND and OR (`Climbing.Laws.expression_condition`).
-/

namespace Joinery.Filter

/-- The words that join conditions. -/
inductive Joint
  | and
  | or
  deriving DecidableEq

/-- What a parser reads expressions by. What stands to the right of an operator, or inside another form, is read one
level deeper. -/
structure SqlParser.Climbing (r : SqlParser) where
  /-- How deep an expression may nest. -/
  levels : Nat
  /-- Reads an expression up to the operators behind it, with so many levels left. -/
  first : Dialect → Nat → List r.Token → Option (r.Expr × List r.Token)
  /-- Reads an operator that binds so tightly, and what stands to its right, with so many levels left. -/
  next : Dialect → Nat → Nat → r.Expr → List r.Token → Option (r.Expr × List r.Token)
  /-- How tightly the operator binds that comes next; zero if there is none. -/
  tightness : Dialect → List r.Token → Nat
  joint? : r.Token → Option Joint
  /-- Behind an operator, a token of this kind compares with several values. -/
  quantifies : r.Token → Prop
  precedence : Dialect → Joint → Nat
  join : Joint → r.Expr → r.Expr → r.Expr

namespace SqlParser.Climbing

variable {r : SqlParser} (c : r.Climbing) (d : Dialect)

/-- Operators behind an expression are read as long as they bind more tightly than `p`. -/
inductive Climbs (n p : Nat) : r.Expr → List r.Token → r.Expr → List r.Token → Prop
  | stop {e : r.Expr} {ts : List r.Token} (loose : c.tightness d ts ≤ p) : Climbs n p e ts e ts
  | step {e e' whole : r.Expr} {ts ts' rest : List r.Token} (tight : p < c.tightness d ts)
      (read : c.next d n (c.tightness d ts) e ts = some (e', ts')) (more : Climbs n p e' ts' whole rest) :
      Climbs n p e ts whole rest

/-- An expression is read off the front of some tokens, up to the first operator that does not bind more tightly than
`p`. -/
def Reads : Nat → Nat → List r.Token → r.Expr → List r.Token → Prop
  | 0, _, _, _, _ => False
  | n + 1, p, ts, e, rest =>
    ∃ left behind, c.first d n ts = some (left, behind) ∧ c.Climbs d n p left behind e rest

/-- The word that joins two conditions. -/
abbrev Word (j : Joint) : Type :=
  {t : r.Token // c.joint? t = some j}

/-- Tokens that do not make several comparisons of the operator they stand behind. -/
def IsPlain (ts : List r.Token) : Prop :=
  ∃ t ∈ ts.head?, ¬ c.quantifies t

/-- Behind these tokens nothing follows, or a word that binds no more tightly than `j`. -/
def Ends (j : Joint) (rest : List r.Token) : Prop :=
  ∀ t ∈ rest.head?, ∃ j', c.joint? t = some j' ∧ c.precedence d j' ≤ c.precedence d j

/-- What a parser that climbs by precedence promises. Nothing binds less than AND but OR. What stands to the right of
either is read up to the next operator that binds no more tightly, and is no comparison with several values. -/
structure Laws (parts : r.Expr → List r.Expr) : Prop where
  expression_iff {d : Dialect} {ts rest : List r.Token} {e : r.Expr} :
    r.expression d ts = some (e, rest) ↔ c.Reads d c.levels 0 ts e rest
  first_takes {d : Dialect} {n : Nat} {ts rest : List r.Token} {e : r.Expr} :
    c.first d n ts = some (e, rest) → ∃ t taken, ts = t :: taken ++ rest
  next_takes {d : Dialect} {n p : Nat} {left e : r.Expr} {ts rest : List r.Token} :
    c.next d n p left ts = some (e, rest) → rest <:+ ts
  tightness_nil (d : Dialect) : c.tightness d [] = 0
  tightness_joint (d : Dialect) {t : r.Token} {j : Joint} (joint : c.joint? t = some j) (ts : List r.Token) :
    c.tightness d (t :: ts) = c.precedence d j
  joint_of_loose {d : Dialect} {ts : List r.Token} (binds : 0 < c.tightness d ts)
    (loose : c.tightness d ts ≤ c.precedence d .and) : ∃ t behind j, ts = t :: behind ∧ c.joint? t = some j
  or_pos (d : Dialect) : 0 < c.precedence d .or
  or_lt_and (d : Dialect) : c.precedence d .or < c.precedence d .and
  next_joint_iff {d : Dialect} {n : Nat} {t : r.Token} {j : Joint} (joint : c.joint? t = some j) {left e : r.Expr}
    {ts rest : List r.Token} : c.next d n (c.precedence d j) left (t :: ts) = some (e, rest) ↔
      c.IsPlain ts ∧ ∃ right, c.Reads d n (c.precedence d j) ts right rest ∧ e = c.join j left right
  parts_join (j : Joint) (left right : r.Expr) : parts (c.join j left right) = [left, right]
  mention_join (j : Joint) (left right : r.Expr) : r.mention (c.join j left right) = .other

variable {c d} {n p q : Nat} {e e' whole : r.Expr} {ts ts' rest : List r.Token}

theorem climbs_iff_of_loose (loose : c.tightness d ts ≤ p) :
    c.Climbs d n p e ts whole rest ↔ whole = e ∧ rest = ts := by
  constructor
  · intro climbs
    cases climbs with
    | stop _ => exact ⟨rfl, rfl⟩
    | step tight _ _ => exact absurd tight (Nat.not_lt.2 loose)
  · rintro ⟨rfl, rfl⟩
    exact .stop loose

theorem climbs_iff_of_tight (tight : p < c.tightness d ts) : c.Climbs d n p e ts whole rest ↔
    ∃ e' ts', c.next d n (c.tightness d ts) e ts = some (e', ts') ∧ c.Climbs d n p e' ts' whole rest := by
  constructor
  · intro climbs
    cases climbs with
    | stop loose => exact absurd tight (Nat.not_lt.2 loose)
    | step _ read more => exact ⟨_, _, read, more⟩
  · rintro ⟨e', ts', read, more⟩
    exact .step tight read more

/-! ## Reading in two parts -/

theorem Climbs.append (front : c.Climbs d n q e ts e' ts') (le : p ≤ q) (more : c.Climbs d n p e' ts' whole rest) :
    c.Climbs d n p e ts whole rest := by
  induction front with
  | stop loose => exact more
  | step tight read _ ih => exact .step (Nat.lt_of_le_of_lt le tight) read (ih more)

/-- The operators that bind more tightly are read before the others. -/
theorem Climbs.split (climbs : c.Climbs d n p e ts whole rest) (le : p ≤ q) :
    ∃ e' ts', c.Climbs d n q e ts e' ts' ∧ c.Climbs d n p e' ts' whole rest := by
  induction climbs with
  | stop loose => exact ⟨_, _, .stop (Nat.le_trans loose le), .stop loose⟩
  | @step e e₁ whole ts ts₁ rest tight read more ih =>
    by_cases tighter : q < c.tightness d ts
    · obtain ⟨e', ts', front, behind⟩ := ih
      exact ⟨e', ts', .step tighter read front, behind⟩
    · exact ⟨e, ts, .stop (Nat.le_of_not_lt tighter), .step tight read more⟩

theorem Climbs.loose (climbs : c.Climbs d n p e ts whole rest) : c.tightness d rest ≤ p := by
  induction climbs with
  | stop loose => exact loose
  | step _ _ _ ih => exact ih

theorem Reads.append (front : c.Reads d (n + 1) q ts e ts') (le : p ≤ q) (more : c.Climbs d n p e ts' whole rest) :
    c.Reads d (n + 1) p ts whole rest := by
  obtain ⟨left, behind, read, climbs⟩ := front
  exact ⟨left, behind, read, climbs.append le more⟩

theorem Reads.split (reads : c.Reads d (n + 1) p ts whole rest) (le : p ≤ q) :
    ∃ e ts', c.Reads d (n + 1) q ts e ts' ∧ c.Climbs d n p e ts' whole rest := by
  obtain ⟨left, behind, read, climbs⟩ := reads
  obtain ⟨e, ts', front, more⟩ := climbs.split le
  exact ⟨e, ts', ⟨left, behind, read, front⟩, more⟩

theorem Reads.exists_level (reads : c.Reads d n p ts e rest) : ∃ m, n = m + 1 := by
  cases n with
  | zero => exact reads.elim
  | succ m => exact ⟨m, rfl⟩

theorem Reads.loose (reads : c.Reads d n p ts e rest) : c.tightness d rest ≤ p := by
  obtain ⟨m, rfl⟩ := reads.exists_level
  obtain ⟨left, behind, -, climbs⟩ := reads
  exact climbs.loose

namespace Laws

variable {parts : r.Expr → List r.Expr} (laws : c.Laws parts)

include laws

theorem suffix_of_climbs (climbs : c.Climbs d n p e ts whole rest) : rest <:+ ts := by
  induction climbs with
  | stop loose => exact List.suffix_rfl
  | step tight read _ ih => exact ih.trans (laws.next_takes read)

/-- An expression takes a token at least. -/
theorem reads_takes (reads : c.Reads d n p ts e rest) : ∃ t taken, ts = t :: taken ++ rest := by
  obtain ⟨m, rfl⟩ := reads.exists_level
  obtain ⟨left, behind, read, climbs⟩ := reads
  obtain ⟨t, taken, rfl⟩ := laws.first_takes read
  obtain ⟨more, rfl⟩ := laws.suffix_of_climbs climbs
  exact ⟨t, taken ++ more, by simp⟩

theorem precedence_le_and (j : Joint) : c.precedence d j ≤ c.precedence d .and := by
  cases j with
  | and => exact Nat.le_refl _
  | or => exact Nat.le_of_lt (laws.or_lt_and d)

theorem tightness_of_ends {j : Joint} (ends : c.Ends d j rest) : c.tightness d rest ≤ c.precedence d j := by
  cases rest with
  | nil => exact laws.tightness_nil d ▸ Nat.zero_le _
  | cons t rest =>
    obtain ⟨j', joint, le⟩ := ends t rfl
    exact laws.tightness_joint d joint rest ▸ le

end Laws

theorem ends_nil (j : Joint) : c.Ends d j [] :=
  nofun

theorem ends_word {j : Joint} (word : c.Word j) (ts : List r.Token) : c.Ends d j (word.1 :: ts) := by
  rintro t ⟨⟩
  exact ⟨j, word.2, Nat.le_refl _⟩

theorem IsPlain.append (plain : c.IsPlain ts) (ts' : List r.Token) : c.IsPlain (ts ++ ts') := by
  obtain ⟨t, first, not_quantifier⟩ := plain
  cases ts with
  | nil => cases first
  | cons t' ts => exact ⟨t, first, not_quantifier⟩

end SqlParser.Climbing

/-! ## Chains -/

/-- What is joined by the same word, from the left to the right. -/
structure SqlParser.Chain {r : SqlParser} (c : r.Climbing) (j : Joint) (α : Type) where
  first : α
  more : List (c.Word j × α)

namespace SqlParser.Chain

variable {r : SqlParser} {c : r.Climbing} {j : Joint} {α : Type}

def items (k : Chain c j α) : List α :=
  k.first :: k.more.map (·.2)

/-- The tokens of a chain, given those of what it joins. -/
def tokens (f : α → List r.Token) (k : Chain c j α) : List r.Token :=
  f k.first ++ k.more.flatMap fun (word, a) => word.1 :: f a

/-- The expression of a chain. It leans to the left. -/
def expr (g : α → r.Expr) (k : Chain c j α) : r.Expr :=
  k.more.foldl (fun left (_, a) => c.join j left (g a)) (g k.first)

def append (k : Chain c j α) (word : c.Word j) (k' : Chain c j α) : Chain c j α :=
  ⟨k.first, k.more ++ (word, k'.first) :: k'.more⟩

variable {f : α → List r.Token} {g : α → r.Expr}

theorem items_append (k : Chain c j α) (word : c.Word j) (k' : Chain c j α) :
    (k.append word k').items = k.items ++ k'.items := by
  rw [items, append, List.map_append]
  rfl

theorem tokens_append (k : Chain c j α) (word : c.Word j) (k' : Chain c j α) :
    (k.append word k').tokens f = k.tokens f ++ word.1 :: k'.tokens f := by
  rw [tokens, append, List.flatMap_append, ← List.append_assoc]
  rfl

variable {d : Dialect} {n p : Nat} {e whole : r.Expr} {ts rest : List r.Token} {parts : r.Expr → List r.Expr}

open Climbing

theorem ends_more (f : α → List r.Token) (more : List (c.Word j × α)) (ends : c.Ends d j rest) :
    c.Ends d j ((more.flatMap fun (word, a) => word.1 :: f a) ++ rest) := by
  cases more with
  | nil => exact ends
  | cons x more => exact ends_word x.1 _

/-- Where only the words of a chain bind more tightly than `p`, the operators that are read are those of a chain. `item`
says what stands to the right of each of them. -/
theorem exists_more (laws : c.Laws parts) {Q : α → Prop}
    (item : ∀ ts right rest, c.IsPlain ts → c.Reads d n (c.precedence d j) ts right rest → c.Ends d j rest →
      ∃ a, ts = f a ++ rest ∧ right = g a ∧ Q a)
    (only : ∀ j', p < c.precedence d j' → c.precedence d j' ≤ c.precedence d j → j' = j)
    (climbs : c.Climbs d n p e ts whole rest) (loose : c.tightness d ts ≤ c.precedence d j)
    (ends : c.Ends d j rest) : ∃ more : List (c.Word j × α), ts = (more.flatMap fun (word, a) => word.1 :: f a) ++ rest ∧
      whole = more.foldl (fun left (_, a) => c.join j left (g a)) e ∧ ∀ x ∈ more, Q x.2 := by
  induction climbs with
  | stop _ => exact ⟨[], rfl, rfl, List.forall_mem_nil _⟩
  | @step e e₁ whole ts ts₁ rest tight read more ih =>
    obtain ⟨t, behind, j', rfl, joint⟩ := laws.joint_of_loose (Nat.zero_lt_of_lt tight)
      (Nat.le_trans loose (laws.precedence_le_and j))
    rw [laws.tightness_joint d joint] at tight loose read
    obtain rfl := only j' tight loose
    obtain ⟨plain, right, reads, rfl⟩ := (laws.next_joint_iff joint).1 read
    obtain ⟨others, rfl, rfl, all⟩ := ih reads.loose ends
    obtain ⟨a, rfl, rfl, here⟩ := item _ right _ plain reads (ends_more f others ends)
    refine ⟨(⟨t, joint⟩, a) :: others, ?_, rfl, List.forall_mem_cons.2 ⟨here, all⟩⟩
    rw [List.flatMap_cons, List.append_assoc, List.cons_append]

/-- The words of a chain and what stands behind each of them are read as operators. -/
theorem climbs_more (laws : c.Laws parts) (tight : p < c.precedence d j) {more : List (c.Word j × α)}
    (plain : ∀ x ∈ more, c.IsPlain (f x.2))
    (reads : ∀ x ∈ more, ∀ follow, c.Ends d j follow → c.Reads d n (c.precedence d j) (f x.2 ++ follow) (g x.2) follow)
    (ends : c.Ends d j rest) (loose : c.tightness d rest ≤ p) (e : r.Expr) :
    c.Climbs d n p e ((more.flatMap fun (word, a) => word.1 :: f a) ++ rest)
      (more.foldl (fun left (_, a) => c.join j left (g a)) e) rest := by
  induction more generalizing e with
  | nil => exact .stop loose
  | cons x more ih =>
    rw [List.forall_mem_cons] at plain reads
    rw [List.flatMap_cons, List.append_assoc, List.cons_append, List.foldl_cons]
    have binds := laws.tightness_joint d x.1.2 (f x.2 ++ ((more.flatMap fun (word, a) => word.1 :: f a) ++ rest))
    refine .step (binds ▸ tight) ?_ (ih plain.2 reads.2 (c.join j e (g x.2)))
    rw [binds]
    exact (laws.next_joint_iff x.1.2).2
      ⟨plain.1.append _, g x.2, reads.1 _ (ends_more f more ends), rfl⟩

end SqlParser.Chain

/-! ## Conditions -/

/-- Some tokens and the expression that they are. -/
structure SqlParser.Piece (r : SqlParser) where
  tokens : List r.Token
  expr : r.Expr

namespace SqlParser.Climbing

variable {r : SqlParser}

/-- Operands joined by AND. -/
abbrev Conjunction (c : r.Climbing) : Type :=
  Chain c .and r.Piece

/-- Conjunctions joined by OR. -/
abbrev Condition (c : r.Climbing) : Type :=
  Chain c .or c.Conjunction

variable {c : r.Climbing}

def Conjunction.tokens (k : c.Conjunction) : List r.Token :=
  Chain.tokens Piece.tokens k

def Conjunction.expr (k : c.Conjunction) : r.Expr :=
  Chain.expr Piece.expr k

namespace Condition

def tokens (k : c.Condition) : List r.Token :=
  Chain.tokens Conjunction.tokens k

def expr (k : c.Condition) : r.Expr :=
  Chain.expr Conjunction.expr k

/-- The operands that stand behind AND or OR. -/
def others (k : c.Condition) : List r.Piece :=
  k.first.more.map (·.2) ++ k.more.flatMap (·.2.items)

/-- The operands, from the left to the right. -/
def pieces (k : c.Condition) : List r.Piece :=
  k.first.first :: k.others

end Condition

variable (c) (d : Dialect)

/-- An operand is read where it stands: on one of the three upper levels, in front of AND, OR or nothing. -/
def IsOperand (o : r.Piece) : Prop :=
  ∃ n follow, c.levels ≤ n + 2 ∧ c.Ends d .and follow ∧
    c.Reads d n (c.precedence d .and) (o.tokens ++ follow) o.expr follow

/-- An operand can stand on each of the three upper levels, in front of AND, OR or nothing. -/
def Stands (o : r.Piece) : Prop :=
  ∀ n, c.levels ≤ n + 2 → n ≤ c.levels → ∀ follow, c.Ends d .and follow →
    c.Reads d n (c.precedence d .and) (o.tokens ++ follow) o.expr follow

variable {c d} {n : Nat} {e : r.Expr} {ts rest : List r.Token} {parts : r.Expr → List r.Expr}

namespace Laws

variable (laws : c.Laws parts)

include laws

theorem ends_and (ends : c.Ends d .or rest) : c.Ends d .and rest := by
  intro t first
  obtain ⟨j, joint, -⟩ := ends t first
  exact ⟨j, joint, laws.precedence_le_and j⟩

/-- What is read up to OR is a conjunction. -/
theorem exists_conjunction (reads : c.Reads d n (c.precedence d .or) ts e rest) (upper : c.levels ≤ n + 1)
    (ends : c.Ends d .or rest) : ∃ k : c.Conjunction, ts = k.tokens ++ rest ∧ e = k.expr ∧
      (∀ o ∈ k.items, c.IsOperand d o) ∧ (∀ x ∈ k.more, c.IsPlain x.2.tokens) ∧
      (c.IsPlain ts → c.IsPlain k.first.tokens) := by
  obtain ⟨m, rfl⟩ := reads.exists_level
  obtain ⟨left, behind, front, climbs⟩ := reads.split (Nat.le_of_lt (laws.or_lt_and d))
  obtain ⟨more, rfl, rfl, all⟩ := Chain.exists_more (f := Piece.tokens) (g := Piece.expr) laws
    (Q := fun o => c.IsOperand d o ∧ c.IsPlain o.tokens)
    (fun ts right rest plain reads ends => by
      obtain ⟨t, taken, rfl⟩ := laws.reads_takes reads
      exact ⟨⟨t :: taken, right⟩, rfl, rfl, ⟨m, rest, upper, ends, reads⟩, plain⟩)
    (fun j' tighter _ => by
      cases j' with
      | and => rfl
      | or => exact absurd tighter (Nat.lt_irrefl _))
    climbs front.loose (laws.ends_and ends)
  obtain ⟨t, taken, rfl⟩ := laws.reads_takes front
  refine ⟨⟨⟨t :: taken, left⟩, more⟩, ?_, rfl, List.forall_mem_cons.2 ⟨?_, ?_⟩, fun x mem => (all x mem).2, id⟩
  · exact (List.append_assoc ..).symm
  · exact ⟨m + 1, _, Nat.le_succ_of_le upper, Chain.ends_more Piece.tokens more (laws.ends_and ends), front⟩
  · exact List.forall_mem_map.2 fun x mem => (all x mem).1

/-- Every text that is one expression is a condition. -/
theorem exists_condition (read : r.expression d ts = some (e, [])) : ∃ k : c.Condition, ts = k.tokens ∧ e = k.expr ∧
    (∀ o ∈ k.pieces, c.IsOperand d o) ∧ ∀ o ∈ k.others, c.IsPlain o.tokens := by
  have reads := laws.expression_iff.1 read
  obtain ⟨m, levels⟩ := reads.exists_level
  rw [levels] at reads
  obtain ⟨left, behind, front, climbs⟩ := reads.split (Nat.zero_le (c.precedence d .or))
  obtain ⟨more, rfl, rfl, all⟩ := Chain.exists_more (f := Conjunction.tokens (c := c)) (g := Conjunction.expr) laws
    (Q := fun k => ∀ o ∈ k.items, c.IsOperand d o ∧ c.IsPlain o.tokens)
    (fun ts right rest plain reads ends => by
      obtain ⟨k, rfl, rfl, read, others, first⟩ := laws.exists_conjunction reads (Nat.le_of_eq levels) ends
      refine ⟨k, rfl, rfl, List.forall_mem_cons.2 ⟨⟨read _ List.mem_cons_self, first plain⟩, ?_⟩⟩
      exact List.forall_mem_map.2 fun x mem =>
        ⟨read _ (List.mem_cons_of_mem _ (List.mem_map_of_mem mem)), others x mem⟩)
    (fun j' _ loose => by
      cases j' with
      | and => exact absurd loose (Nat.not_le.2 (laws.or_lt_and d))
      | or => rfl)
    climbs front.loose (ends_nil .or)
  obtain ⟨k, rfl, rfl, read, others, -⟩ := laws.exists_conjunction front (Nat.le_succ_of_le (Nat.le_of_eq levels))
    (Chain.ends_more Conjunction.tokens more (ends_nil .or))
  obtain ⟨first, behind⟩ := List.forall_mem_cons.1 read
  refine ⟨⟨k, more⟩, congrArg (k.tokens ++ ·) (List.append_nil _), rfl, List.forall_mem_cons.2 ⟨first, ?_⟩, ?_⟩
  all_goals
    rw [Condition.others, List.forall_mem_append, List.forall_mem_flatMap]
  · exact ⟨behind, fun x mem o among => (all x mem o among).1⟩
  · exact ⟨List.forall_mem_map.2 others, fun x mem o among => (all x mem o among).2⟩

/-- A conjunction whose operands can stand where they do is read up to OR. -/
theorem reads_conjunction {k : c.Conjunction} (stands : ∀ o ∈ k.items, c.Stands d o)
    (plain : ∀ x ∈ k.more, c.IsPlain x.2.tokens) (upper : c.levels ≤ n + 1) (within : n ≤ c.levels)
    (ends : c.Ends d .or rest) : c.Reads d n (c.precedence d .or) (k.tokens ++ rest) k.expr rest := by
  obtain ⟨first, behind⟩ := List.forall_mem_cons.1 stands
  have front := first n (Nat.le_succ_of_le upper) within _ (Chain.ends_more Piece.tokens k.more (laws.ends_and ends))
  obtain ⟨m, rfl⟩ := front.exists_level
  have more := Chain.climbs_more laws (laws.or_lt_and d) plain
    (fun x mem => behind x.2 (List.mem_map_of_mem mem) m upper (Nat.le_of_succ_le within)) (laws.ends_and ends)
    (laws.tightness_of_ends ends) k.first.expr
  have whole := front.append (Nat.le_of_lt (laws.or_lt_and d)) more
  rw [← List.append_assoc] at whole
  exact whole

/-- The tokens of a condition whose operands can stand where they do are its expression. -/
theorem expression_condition {k : c.Condition} (stands : ∀ o ∈ k.pieces, c.Stands d o)
    (plain : ∀ o ∈ k.others, c.IsPlain o.tokens) : r.expression d k.tokens = some (k.expr, []) := by
  rw [Condition.pieces, Condition.others, List.forall_mem_cons, List.forall_mem_append, List.forall_mem_flatMap] at stands
  rw [Condition.others, List.forall_mem_append, List.forall_mem_flatMap] at plain
  obtain ⟨leading, behind, later⟩ := stands
  obtain ⟨plain_behind, plain_later⟩ := plain
  have front := laws.reads_conjunction (List.forall_mem_cons.2 ⟨leading, behind⟩)
    (fun x mem => plain_behind _ (List.mem_map_of_mem mem)) (Nat.le_succ _) (Nat.le_refl _)
    (Chain.ends_more Conjunction.tokens k.more (ends_nil (d := d) .or))
  obtain ⟨m, levels⟩ := front.exists_level
  rw [levels] at front
  have reads (x) (mem : x ∈ k.more) (follow : List r.Token) (ends : c.Ends d .or follow) :
      c.Reads d m (c.precedence d .or) (x.2.tokens ++ follow) x.2.expr follow :=
    laws.reads_conjunction (later x mem)
      (fun y among => plain_later x mem _ (List.mem_cons_of_mem _ (List.mem_map_of_mem among)))
      (Nat.le_of_eq levels) (levels ▸ Nat.le_succ m) ends
  have more := Chain.climbs_more laws (laws.or_pos d)
    (fun x mem => (plain_later x mem _ List.mem_cons_self).append _) reads (ends_nil .or)
    (Nat.le_of_eq (laws.tightness_nil d)) k.first.expr
  have whole := front.append (Nat.zero_le _) more
  rw [List.append_nil] at whole
  rw [laws.expression_iff, levels]
  exact whole

end Laws

end SqlParser.Climbing

end Joinery.Filter
