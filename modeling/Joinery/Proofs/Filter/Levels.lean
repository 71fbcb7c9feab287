import Joinery.Proofs.Filter.Conditions
import Joinery.Proofs.Filter.Conjoined
import Joinery.Proofs.Filter.Lexing
import Joinery.Proofs.Filter.Statements

/-!
# The levels of the grammar

The grammar of the dialects reads expressions by precedence (`climbs_tree`). Each operator takes a lexeme at least, so
its bound on the number of operators is never reached, and a level of the grammar reads what `Climbing.Reads` allows
(`exprAbove_level_iff`).
-/

namespace Joinery.Filter

namespace Grammar

variable {d : Dialect} {α β : Type}

/-! ## Rules that go on -/

/-- A rule leaves an end of the lexemes. -/
def LeavesEnd (rule : Read α) : Prop :=
  ∀ ls a rest, rule ls = .ok (a, rest) → rest <:+ ls

/-- A rule takes a lexeme at least. -/
def Advances (rule : Read α) : Prop :=
  ∀ ls a rest, rule ls = .ok (a, rest) → ∃ l taken, ls = l :: taken ++ rest

theorem Lifts.leavesEnd {rule : Read α} {i o : Nat} (h : ∀ ls, Lifts d i o rule ls) : LeavesEnd rule := by
  intro ls a rest read
  obtain ⟨taken, rfl, -⟩ := h ls a rest read
  exact List.suffix_append _ _

theorem advances_refuse : Advances (refuse : Read α) := by
  rintro _ _ _ ⟨⟩

theorem Advances.bind {rule : Read α} {next : α → Read β} (h : Advances rule) (h' : ∀ a, LeavesEnd (next a)) :
    Advances (rule >>= next) := by
  intro ls b rest read
  obtain ⟨a, middle, first, second⟩ := bind_eq_ok.1 read
  obtain ⟨l, taken, rfl⟩ := h ls a middle first
  obtain ⟨more, rfl⟩ := h' a middle b rest second
  exact ⟨l, taken ++ more, by simp⟩

theorem LeavesEnd.bind {rule : Read α} {next : α → Read β} (h : LeavesEnd rule) (h' : ∀ a, Advances (next a)) :
    Advances (rule >>= next) := by
  intro ls b rest read
  obtain ⟨a, middle, first, second⟩ := bind_eq_ok.1 read
  obtain ⟨l, taken, rfl⟩ := h' a middle b rest second
  obtain ⟨before, rfl⟩ := h ls a _ first
  cases before with
  | nil => exact ⟨l, taken, rfl⟩
  | cons l' before => exact ⟨l', before ++ l :: taken, by simp⟩

theorem Advances.ite {c : Prop} [Decidable c] {rule rule' : Read α} (h : Advances rule) (h' : Advances rule') :
    Advances (if c then rule else rule') := by
  split_ifs
  · exact h
  · exact h'

/-- What a rule takes that passes a test counts. -/
theorem advances_takeIf_bind {test : Lexeme → Bool} {rule : Bool → Read α} (found : LeavesEnd (rule true))
    (other : Advances (rule false)) : Advances (takeIf test >>= rule) := by
  intro ls a rest read
  rcases takeIf_bind_cases read with ⟨l, behind, -, rfl, taken⟩ | ⟨-, not_taken⟩
  · obtain ⟨more, rfl⟩ := found behind a rest taken
    exact ⟨l, more, rfl⟩
  · exact other ls a rest not_taken

theorem advances_next_bind {rule : Option Lexeme → Read α} (nothing : Advances (rule none))
    (found : ∀ l, LeavesEnd (rule (some l))) : Advances (next >>= rule) := by
  intro ls a rest read
  cases ls with
  | nil => exact nothing [] a rest read
  | cons l ls =>
    obtain ⟨more, rfl⟩ := found l ls a rest read
    exact ⟨l, more, rfl⟩

theorem leavesEnd_pure (a : α) : LeavesEnd (pure a : Read α) := by
  rintro ls _ _ ⟨⟩
  exact List.suffix_rfl

theorem advances_symbol (mark : String) : Advances (symbol mark) :=
  advances_takeIf_bind (leavesEnd_pure _) advances_refuse

theorem advances_word (key : String) : Advances (word key) :=
  advances_takeIf_bind (leavesEnd_pure _) advances_refuse

/-- What is read between parentheses is more than nothing, whatever it is. -/
theorem advances_inParens {rule : Read α} (h : KeepsDepth d rule) : Advances (inParens rule) := by
  have inside : Closes d (do
      let a ← rule
      symbol ")"
      return a) := h.bind_closes fun _ => closes_closing.bind fun _ => keepsDepth_pure _
  exact (advances_symbol "(").bind fun _ => Lifts.leavesEnd inside

theorem KeepsDepth.leavesEnd {rule : Read α} (h : KeepsDepth d rule) : LeavesEnd rule :=
  Lifts.leavesEnd h

/-- A rule that is tried first, and what is read where it does not apply. -/
theorem Advances.attempt_bind {rule : Read α} {next : Option α → Read β} (h : Advances rule)
    (found : ∀ a, LeavesEnd (next (some a))) (other : Advances (next none)) : Advances (attempt rule >>= next) := by
  intro ls b rest read
  obtain ⟨a, middle, first, second⟩ := bind_eq_ok.1 read
  unfold attempt at first
  split at first
  · next a' _ applies =>
    cases first
    have both : Advances (rule >>= fun a => next (some a)) := h.bind found
    exact both ls b rest (bind_eq_ok.2 ⟨a', middle, applies, second⟩)
  · cases first
    exact other _ b rest second
  · cases first

/-! ## Operands and operators go on -/

section Inner

theorem advances_textLiteral : Advances (textLiteral d) := by
  refine advances_next_bind advances_refuse fun l => KeepsDepth.leavesEnd (d := d) ?_
  grind

variable {inner : Inner} (h : inner.Keeps d)

include h

theorem leavesEnd_symbolOperand (mark : String) : LeavesEnd (symbolOperand d inner mark >>= suffixed d inner) := by
  by_cases opening : mark = "("
  · subst opening
    have whole : Closes d (symbolOperand d inner "(" >>= suffixed d inner) :=
      (closes_parenthesized h).bind fun e => keepsDepth_suffixed h e
    exact Lifts.leavesEnd whole
  · exact ((keepsDepth_symbolOperand h opening).bind fun e => keepsDepth_suffixed h e).leavesEnd

theorem suffix_of_next_symbolOperand {rule : Option Lexeme → Read Tree} {mark : String} {ls rest : List Lexeme}
    {e : Tree} (reads : rule (some (.symbol mark)) = symbolOperand d inner mark >>= suffixed d inner)
    (read : (next >>= rule) (.symbol mark :: ls) = .ok (e, rest)) : rest <:+ ls := by
  change rule (some (.symbol mark)) ls = _ at read
  rw [reads] at read
  exact leavesEnd_symbolOperand h mark ls e rest read

theorem advances_pairs {key : Read (Option Tree)} (h' : KeepsDepth d key) : Advances (pairs d inner key) := by
  have entry : KeepsDepth d (do
      let k ← key
      symbol ":"
      return Tree.formOf ":" [k, some (← inner.expr)]) := by
    grind
  have entries := entry.itemsUpTo d "\x7d"
  refine (advances_symbol "\x7b").bind fun _ => KeepsDepth.leavesEnd (d := d) ?_
  grind

variable (expr : ∀ p, Advances (inner.exprAbove p))

include expr

omit h in
theorem advances_interval (operand : Advances inner.operand) : Advances (interval d inner) := by
  have second : KeepsDepth d (do if (← timeField d) = "SECOND" then optionalSize) := by grind
  have range := (keepsDepth_word? (d := d) (by decide : "TO" ≠ "")).whenever second
  unfold interval
  split
  all_goals
    refine Advances.bind (by first | exact expr 0 | exact operand) fun value => KeepsDepth.leavesEnd (d := d) ?_
    repeat' with_reducible refine KeepsDepth.bind ?_ fun _ => ?_
    all_goals grind

omit h in
theorem advances_typedLiteral (operand : Advances inner.operand) : Advances (typedLiteral d inner) := by
  refine (keepsDepth_typeName (d := d) d).leavesEnd.bind fun type => ?_
  cases type with
  | known =>
    refine (keepsDepth_peek (d := d)).leavesEnd.bind fun l => ?_
    exact advances_textLiteral.bind fun _ => leavesEnd_pure _
  | interval => exact advances_interval expr operand
  | own => exact advances_refuse

/-- An operand takes a lexeme at least. -/
theorem advances_operandStep (operand : Advances inner.operand) : Advances (operandStep d inner) := by
  refine (advances_typedLiteral expr operand).attempt_bind leavesEnd_pure ?_
  intro ls e rest read
  cases ls with
  | nil => cases read
  | cons l ls =>
    have behind (left : rest <:+ ls) : ∃ l' taken, l :: ls = l' :: taken ++ rest := by
      obtain ⟨taken, rfl⟩ := left
      exact ⟨l, taken, rfl⟩
    cases l with
    | word value quote => exact behind ((keepsDepth_wordOperand h _ _).leavesEnd ls e rest read)
    | symbol mark =>
      by_cases is_brace : mark = "\x7b"
      · subst is_brace
        by_cases duckdb : d = .duckdb
        · subst duckdb
          have key : KeepsDepth .duckdb (do
              let _ ← name
              return none : Read (Option Tree)) := by
            grind
          exact ((advances_pairs h key).bind fun e => (keepsDepth_suffixed h e).leavesEnd) _ e rest read
        · change (if d = .duckdb then _ else refuse : Read Tree) ls = _ at read
          rw [if_neg duckdb] at read
          cases read
      · obtain ⟨_, _, ⟨⟩, read⟩ := bind_eq_ok.1 read
        refine behind (suffix_of_next_symbolOperand h ?_ read)
        grind
    | text quoting value =>
      refine behind ?_
      cases quoting with
      | escaped => exact (KeepsDepth.ite (keepsDepth_suffixed h _) keepsDepth_refuse).leavesEnd ls e rest read
      | _ => exact (keepsDepth_suffixed h _).leavesEnd ls e rest read
    | number | placeholder => exact behind ((keepsDepth_suffixed h _).leavesEnd ls e rest read)
    | operator | other => cases read

theorem advances_rightOf (operator : String) (p : Nat) (left : Tree) : Advances (rightOf inner operator p left) := by
  refine (keepsDepth_oneOf? (d := d) (by decide)).leavesEnd.bind fun key => ?_
  cases key with
  | none => exact (expr p).bind fun _ => leavesEnd_pure _
  | some key =>
    have compared (right : Tree) : LeavesEnd (if comparisons.contains operator then
        pure (.form (operator ++ " " ++ key) [left, right]) else refuse : Read Tree) :=
      (KeepsDepth.ite (d := d) (keepsDepth_pure _) keepsDepth_refuse).leavesEnd
    refine (keepsDepth_keyAhead (d := d) 1).leavesEnd.bind fun ahead => ?_
    refine (keepsDepth_peek (d := d)).leavesEnd.bind fun opening => ?_
    exact .ite ((expr p).bind compared) ((advances_inParens (h.exprAbove p)).bind compared)

theorem advances_negatable (left : Tree) : Advances (negatable d inner left) := by
  have pattern (head : String) : Advances (pattern d inner head left) :=
    (expr _).bind fun e => KeepsDepth.leavesEnd (d := d) (by grind)
  refine (keepsDepth_word? (d := d) (by decide)).leavesEnd.bind fun _ => ?_
  refine (keepsDepth_peekKey (d := d)).leavesEnd.bind fun key => .ite ?_ ?_
  · refine (keepsDepth_word? (d := d) (by decide)).leavesEnd.bind fun _ => ?_
    refine (keepsDepth_word? (d := d) (by decide)).leavesEnd.bind fun _ => ?_
    exact (expr _).bind fun _ => leavesEnd_pure _
  · refine advances_takeIf_bind (keepsDepth_membership h left).leavesEnd ?_
    refine advances_takeIf_bind (keepsDepth_between h left).leavesEnd ?_
    refine (keepsDepth_oneOf? (d := d) (by decide)).leavesEnd.bind fun like => .ite ?_ ?_
    · exact (keepsDepth_word? (d := d) (by decide)).leavesEnd.bind fun _ => pattern "LIKE"
    · exact (keepsDepth_words? (d := d) (by decide)).leavesEnd.bind fun _ => .ite (pattern _) advances_refuse

theorem advances_wordOperator (p : Nat) (left : Tree) : Advances (wordOperator d inner p left) := by
  refine (keepsDepth_peekKey (d := d)).leavesEnd.bind fun key => ?_
  split
  · exact (advances_word "IS").bind fun _ => (keepsDepth_test h left).leavesEnd
  · refine (keepsDepth_words (d := d) (by decide)).leavesEnd.bind fun _ => ?_
    exact (expr p).bind fun _ => leavesEnd_pure _
  any_goals exact advances_negatable h expr left
  exact advances_refuse

/-- An operator takes a lexeme at least. -/
theorem advances_infixOperator (p : Nat) (left : Tree) : Advances (infixOperator d inner p left) := by
  refine (keepsDepth_peekKey (d := d)).leavesEnd.bind fun key => ?_
  split
  · refine (advances_word "DIV").bind fun _ => KeepsDepth.leavesEnd (d := .mysql) ?_
    exact h.expr.bind fun _ => keepsDepth_pure _
  refine (keepsDepth_binary? (d := d)).leavesEnd.bind fun operator => ?_
  cases operator with
  | some operator => exact advances_rightOf h expr operator p left
  | none =>
    refine advances_takeIf_bind ?_ (advances_takeIf_bind ?_ (advances_takeIf_bind ?_ ?_))
    · exact ((keepsDepth_typeName (d := d) d).bind fun _ => keepsDepth_pure _).leavesEnd
    · exact (KeepsDepth.ite (d := d) (keepsDepth_pure _) keepsDepth_refuse).leavesEnd
    · exact (KeepsDepth.ite (keepsDepth_subscript h left) (keepsDepth_keys h left)).leavesEnd
    · exact advances_wordOperator h expr p left

end Inner

theorem advances_operand {deeper : Deeper} (h : deeper.Keeps d) (expr : ∀ p, Advances (deeper.exprAbove p)) :
    Advances (Inner.above d deeper).operand := by
  have within (bound : Nat) : KeepsDepth d (operandWithin d deeper bound) ∧ Advances (operandWithin d deeper bound) := by
    induction bound with
    | zero => exact ⟨keepsDepth_refuse, advances_refuse⟩
    | succ bound ih =>
      have inner : Inner.Keeps d { deeper with operand := operandWithin d deeper bound } := ⟨h, ih.1⟩
      exact ⟨keepsDepth_operandStep inner, advances_operandStep inner expr ih.2⟩
  exact fun ls => (within _).2 ls

/-- An expression takes a lexeme at least. -/
theorem advances_level (n p : Nat) : Advances ((level d n).exprAbove p) := by
  induction n generalizing p with
  | zero => rintro _ _ _ ⟨⟩
  | succ n ih =>
    have deeper := keeps_level d n
    exact (advances_operand deeper ih).bind fun first =>
      (KeepsDepth.withBound (keepsDepth_operatorsAbove deeper.above p first)).leavesEnd

/-! ## What joins conditions -/

theorem negatedPrecedence_of_loose {key : String}
    (loose : negatedPrecedence (precedence d) key ≤ (precedence d).conjunction) :
    negatedPrecedence (precedence d) key = 0 := by
  revert loose
  unfold negatedPrecedence
  split
  case h_8 => exact fun _ => rfl
  all_goals cases d <;> decide

theorem symbolPrecedence_of_loose {mark : String}
    (loose : symbolPrecedence (precedence d) mark ≤ (precedence d).conjunction) :
    symbolPrecedence (precedence d) mark = 0 := by
  revert loose
  unfold symbolPrecedence
  split
  all_goals cases d <;> decide

theorem wordPrecedence_of_loose {key second third : String}
    (loose : wordPrecedence (precedence d) key second third ≤ (precedence d).conjunction) :
    wordPrecedence (precedence d) key second third = 0 ∨ key = "AND" ∨ key = "OR" := by
  revert loose
  unfold wordPrecedence
  split
  case h_1 => exact fun _ => .inr (.inr rfl)
  case h_2 => exact fun _ => .inr (.inl rfl)
  case h_5 | h_10 => exact fun loose => .inl (negatedPrecedence_of_loose loose)
  all_goals
    try split_ifs
    all_goals cases d <;> decide

/-- Behind an operator that does not compare, several values are refused. -/
theorem rightOf_eq_ok_iff {inner : Inner} {operator : String} {p : Nat} (joins : operator ∉ comparisons)
    (takes : Advances (inner.exprAbove p)) {left t : Tree} {ls rest : List Lexeme} :
    rightOf inner operator p left ls = .ok (t, rest) ↔ (∃ l ∈ ls.head?, l.key ∉ ["ANY", "ALL", "SOME"]) ∧
      ∃ right, inner.exprAbove p ls = .ok (right, rest) ∧ t = .form operator [left, right] := by
  cases ls with
  | nil =>
    constructor
    · intro read
      have no_quantifier : oneOf? ["ANY", "ALL", "SOME"] [] = .ok (none, []) := rfl
      rw [rightOf, bind_of_ok no_quantifier] at read
      obtain ⟨right, _, read, -⟩ := bind_eq_ok.1 read
      obtain ⟨_, _, nothing⟩ := takes _ _ _ read
      cases nothing
    · rintro ⟨⟨l, ⟨⟩, -⟩, -⟩
  | cons l ls =>
    by_cases plain : l.key ∈ ["ANY", "ALL", "SOME"]
    · rw [rightOf, bind_of_ok (oneOf?_of_mem plain)]
      constructor
      · intro read
        obtain ⟨_, _, -, read⟩ := bind_eq_ok.1 read
        obtain ⟨_, _, -, read⟩ := bind_eq_ok.1 read
        have refused (right : Tree) (ls : List Lexeme) : (if comparisons.contains operator then
            pure (.form (operator ++ " " ++ l.key) [left, right]) else refuse : Read Tree) ls ≠ .ok (t, rest) := by
          rw [if_neg (by simpa using joins)]
          rintro ⟨⟩
        split at read
        all_goals
          obtain ⟨right, _, -, read⟩ := bind_eq_ok.1 read
          exact absurd read (refused right _)
      · rintro ⟨⟨_, ⟨⟩, not_plain⟩, -⟩
        exact absurd plain not_plain
    · rw [rightOf, bind_of_ok (oneOf?_of_not_mem plain)]
      refine bind_eq_ok.trans ⟨?_, ?_⟩
      · rintro ⟨right, _, read, ⟨⟩⟩
        exact ⟨⟨l, rfl, plain⟩, right, read, rfl⟩
      · rintro ⟨-, right, read, rfl⟩
        exact ⟨right, rest, read, rfl⟩

end Grammar

open SqlParser Grammar

variable {d : Dialect}

/-! ## Climbing -/

/-- Which condition joins, if a word joins two. -/
def joint? (l : Lexeme) : Option Joint :=
  if l.key = "AND" then some .and else if l.key = "OR" then some .or else none

def Joint.key : Joint → String
  | and => "AND"
  | or => "OR"

theorem joint?_eq_some_iff {l : Lexeme} {j : Joint} : joint? l = some j ↔ l.key = j.key := by
  unfold joint?
  cases j with
  | and => split_ifs <;> simp_all [Joint.key]
  | or => split_ifs <;> simp_all [Joint.key]

/-- How the grammar of the dialects climbs. -/
def climbing : sqlParser.Climbing where
  levels := maxDepth
  first d n ls := ((Inner.above d (level d n)).operand ls).toOption
  next d n p left ls := (infixOperator d (Inner.above d (level d n)) p left ls).toOption
  tightness := precedenceAt
  joint? := joint?
  quantifies l := l.key ∈ ["ANY", "ALL", "SOME"]
  precedence d
    | .and => (precedence d).conjunction
    | .or => (precedence d).disjunction
  join j left right := .form j.key [left, right]

/-- The operators behind an expression are climbed; the bound on their number is not reached. -/
theorem operatorsAbove_eq_ok_iff {n p bound : Nat} {left t : Tree} {ls rest : List Lexeme}
    (enough : ls.length < bound) :
    operatorsAbove d (Inner.above d (level d n)) p left bound ls = .ok (t, rest) ↔
      climbing.Climbs d n p left ls t rest := by
  induction bound generalizing left ls with
  | zero => exact absurd enough (Nat.not_lt_zero _)
  | succ bound ih =>
    have operators := advances_infixOperator (keeps_level d n).above (advances_level n) (precedenceAt d ls) left
    change (if p < precedenceAt d ls then infixOperator d _ (precedenceAt d ls) left >>= fun left' =>
      operatorsAbove d (Inner.above d (level d n)) p left' bound else pure left : Read Tree) ls = _ ↔ _
    split_ifs with tight
    · refine bind_eq_ok.trans (Iff.trans ?_ (Climbing.climbs_iff_of_tight tight).symm)
      refine exists_congr fun left' => exists_congr fun ls' => ?_
      rw [← toOption_eq_some_iff]
      refine and_congr_right fun read => ih ?_
      obtain ⟨l, taken, rfl⟩ := operators _ _ _ (toOption_eq_some_iff.1 read)
      simp at enough
      omega
    · refine Iff.trans ?_ (Climbing.climbs_iff_of_loose (Nat.le_of_not_lt tight)).symm
      constructor
      · rintro ⟨⟩
        exact ⟨rfl, rfl⟩
      · rintro ⟨rfl, rfl⟩
        rfl

/-- A level of the grammar reads what climbing reads. -/
theorem exprAbove_level_iff {n p : Nat} {t : Tree} {ls rest : List Lexeme} :
    (level d n).exprAbove p ls = .ok (t, rest) ↔ climbing.Reads d n p ls t rest := by
  cases n with
  | zero => exact ⟨nofun, nofun⟩
  | succ n =>
    refine bind_eq_ok.trans ?_
    refine exists_congr fun left => exists_congr fun behind => ?_
    rw [← toOption_eq_some_iff]
    exact and_congr_right fun _ => operatorsAbove_eq_ok_iff (Nat.lt_succ_self _)

theorem Joint.key_ne (j : Joint) : j.key ≠ "" ∧ j.key ≠ "DIV" ∧ j.key ∉ comparisons := by
  cases j <;> decide

theorem precedenceAt_joint {l : Lexeme} {j : Joint} (joint : joint? l = some j) (ls : List Lexeme) :
    precedenceAt d (l :: ls) = climbing.precedence d j := by
  have key := joint?_eq_some_iff.1 joint
  cases j with
  | and => exact precedenceAt_and key ls
  | or => exact precedenceAt_or key ls

theorem exists_joint_of_loose {ls : List Lexeme} (binds : 0 < precedenceAt d ls)
    (loose : precedenceAt d ls ≤ (precedence d).conjunction) : ∃ l behind j, ls = l :: behind ∧ joint? l = some j := by
  rcases ls with _ | ⟨l, ls⟩
  · cases binds
  refine ⟨l, ls, ?_⟩
  suffices l.key = "AND" ∨ l.key = "OR" by
    rcases this with key | key
    · exact ⟨.and, rfl, joint?_eq_some_iff.2 key⟩
    · exact ⟨.or, rfl, joint?_eq_some_iff.2 key⟩
  have word (same : precedenceAt d (l :: ls) = wordPrecedence (precedence d) l.key
      ((ls.head?.map Lexeme.key).getD "") (((ls.drop 1).head?.map Lexeme.key).getD "")) :
      l.key = "AND" ∨ l.key = "OR" := by
    rw [same] at binds loose
    exact (wordPrecedence_of_loose loose).resolve_left (Nat.ne_of_gt binds)
  cases l with
  | symbol mark => exact absurd (symbolPrecedence_of_loose loose) (Nat.ne_of_gt binds)
  | operator mark =>
    have tight : (precedence d).conjunction < (precedence d).special := by cases d <;> decide
    exact absurd loose (Nat.not_le.2 tight)
  | _ => exact word rfl

/-- What stands to the right of AND or OR is read up to the next operator that binds no more tightly. -/
theorem infixOperator_joint_iff {n : Nat} {l : Lexeme} {j : Joint} (joint : joint? l = some j) {left t : Tree}
    {ls rest : List Lexeme} :
    infixOperator d (Inner.above d (level d n)) (climbing.precedence d j) left (l :: ls) = .ok (t, rest) ↔
      climbing.IsPlain ls ∧ ∃ right, climbing.Reads d n (climbing.precedence d j) ls right rest ∧
        t = .form j.key [left, right] := by
  have key := joint?_eq_some_iff.1 joint
  have is_binary : binary? d (l :: ls) = .ok (some j.key, ls) := by
    rw [← key]
    exact binary?_word (by rw [key]; cases j <;> decide) ls
  rw [infixOperator_of_binary (by rw [key]; exact j.key_ne.2.1) is_binary]
  refine (rightOf_eq_ok_iff j.key_ne.2.2 (advances_level n _)).trans (and_congr_right fun _ => ?_)
  exact exists_congr fun right => and_congr exprAbove_level_iff Iff.rfl

/-- The grammar of the dialects climbs by precedence. -/
theorem climbs_tree : climbing.Laws Tree.parts where
  expression_iff := by
    intro d ls rest t
    exact toOption_eq_some_iff.trans exprAbove_level_iff
  first_takes read :=
    advances_operand (keeps_level _ _) (advances_level _) _ _ _ (toOption_eq_some_iff.1 read)
  next_takes read :=
    (keepsDepth_infixOperator (keeps_level _ _).above _ _).leavesEnd _ _ _ (toOption_eq_some_iff.1 read)
  tightness_nil d := rfl
  tightness_joint d := precedenceAt_joint
  joint_of_loose := exists_joint_of_loose
  or_pos := disjunction_pos
  or_lt_and := disjunction_lt_conjunction
  next_joint_iff joint := toOption_eq_some_iff.trans (infixOperator_joint_iff joint)
  parts_join j left right := rfl
  mention_join j left right := rfl

/-! ## Conditions as they are usually written -/

def Term.piece (t : Term) : sqlParser.Piece :=
  ⟨t.lexemes, t.tree⟩

theorem Term.isPlain (t : Term) : climbing.IsPlain t.piece.tokens := by
  obtain ⟨l, ls, eq, -, plain⟩ := t.startsPlain
  exact ⟨l, congrArg List.head? eq, plain⟩

/-- A term can stand where an operand does, unless it nests too deep. -/
theorem Term.stands (t : Term) (shallow : t.depth + 3 ≤ maxDepth) : climbing.Stands d t.piece := by
  intro n upper _ follow ends
  have upper : maxDepth ≤ n + 2 := upper
  obtain ⟨n, rfl⟩ := Nat.exists_eq_add_of_le' (by omega : 1 ≤ n)
  have ends : Ends follow := by
    intro l first
    obtain ⟨j, joint, -⟩ := ends l first
    have key := joint?_eq_some_iff.1 joint
    cases j with
    | and => exact .inr (.inl key)
    | or => exact .inr (.inr key)
  exact exprAbove_level_iff.1
    ((t.readsFront (Nat.le_refl _) (by omega) ends).whole (precedenceAt_le_of_ends ends))

/-! ## Texts -/

theorem joint?_and : joint? (.word "AND" none) = some .and :=
  joint?_eq_some_iff.2 (by decide +kernel)

/-- The word between two conditions. -/
def andWord : climbing.Word .and :=
  ⟨.word "AND" none, joint?_and⟩

/-- The lexemes of texts with AND between them are those of the texts, unless one of them ends in a comment. -/
theorem cutsTexts_lexemes : sqlParser.CutsTexts andWord.1 fun d text => endsInComment d text = true where
  tokens_empty d := rfl
  tokens_and {d a b ls ls'} cut closed cut' := by
    have first : ReadsAs d a ls := ⟨cut, Bool.eq_false_iff.2 closed⟩
    have spaced : a ++ " AND " ++ b = a ++ " " ++ ("AND" ++ " " ++ b) := by
      have : " AND " = " " ++ "AND" ++ " " := rfl
      simp only [this, String.append_assoc]
    rw [spaced]
    exact first.lexemes_append ((readsAs_and d).lexemes_append cut')
  tokens_comment cut opened cut' := lexemes_append_of_comment cut opened cut'

end Joinery.Filter
