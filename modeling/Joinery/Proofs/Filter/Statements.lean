import Joinery.Filter.Grammar.Nesting
import Joinery.Proofs.Filter.Forms

/-!
# Parentheses in operators and statements

Operators, sources and clauses close the parentheses that they open, as long as what nests in them does. The rules
for each depth are made of those for the depth below, so all of them do.
-/

namespace Joinery.Filter.Grammar

variable {d : Dialect} {α : Type}

/-! ## Operators -/

/-- Lexemes between points, up to one that has another behind it. -/
theorem repeated_point_next {names : List (Option Lexeme)} {ls rest : List Lexeme}
    (read : repeated (symbol? ".") next ls = .ok (names, rest)) (more : rest ≠ []) :
    ∃ others : List Lexeme, ls = (others.flatMap fun l => [.symbol ".", l]) ++ rest := by
  unfold repeated withBound at read
  generalize ls.length + 1 = bound at read
  induction bound generalizing ls names with
  | zero =>
    cases read
    exact ⟨[], rfl⟩
  | succ bound ih =>
    unfold repeatWithin at read
    rcases takeIf_bind_cases read with ⟨point, behind, is_point, rfl, taken⟩ | ⟨-, not_taken⟩
    · obtain rfl := of_decide_eq_true is_point
      obtain ⟨name, tail, first, taken⟩ := bind_eq_ok.1 taken
      obtain ⟨names, tail', second, same⟩ := bind_eq_ok.1 taken
      cases same
      obtain ⟨others, eq⟩ := ih second
      cases behind with
      | nil =>
        cases first
        exact absurd (List.append_eq_nil_iff.1 eq.symm).2 more
      | cons l behind =>
        cases first
        exact ⟨l :: others, congrArg (fun ls => Lexeme.symbol "." :: l :: ls) eq⟩
    · cases not_taken
      exact ⟨[], rfl⟩

/-- The name of an operator may hold any lexemes. -/
theorem keepsDepth_namedOperator : KeepsDepth .postgres (do
    if ← word? "OPERATOR" then
      namedOperator
      return some "OPERATOR"
    return none) := by
  intro ls a rest read
  rcases takeIf_bind_cases read with ⟨word, behind, is_word, rfl, taken⟩ | ⟨-, not_taken⟩
  case inr => exact Lifts.pure none a rest not_taken
  have key : word.key = "OPERATOR" := beq_iff_eq.1 is_word
  obtain ⟨_, rest', operator, same⟩ := bind_eq_ok.1 taken
  cases same
  obtain ⟨_, inside, opening, operator⟩ := bind_eq_ok.1 operator
  obtain ⟨_, behind, one, operator⟩ := bind_eq_ok.1 operator
  obtain ⟨_, tail, more, closing⟩ := bind_eq_ok.1 operator
  obtain rfl := eq_cons_of_symbol opening
  obtain rfl := eq_cons_of_symbol closing
  obtain ⟨others, eq⟩ := repeated_point_next more (List.cons_ne_nil _ _)
  cases inside with
  | nil =>
    cases one
    exact absurd (List.append_eq_nil_iff.1 eq.symm).2 (List.cons_ne_nil _ _)
  | cons first inside =>
    cases one
    subst eq
    refine ⟨.rule (.ofTokens (word :: .symbol "(" :: first :: (others.flatMap fun l => [.symbol ".", l]) ++
      [.symbol ")"])) .nothing, by simp [Taken.tokens], ?_, fun _ => rfl⟩
    simpa [Taken.inner] using TakenUnread.operator first others rfl key

@[grind ←]
theorem keepsDepth_binary? : KeepsDepth d (binary? d) := by
  have symbols (mark : String) (is_binary : isBinary d mark = true) :
      mark ≠ "(" ∧ mark ≠ ")" ∧ mark ≠ ";" := by
    refine ⟨?_, ?_, ?_⟩
    all_goals
      rintro rfl
      cases is_binary
  unfold binary?
  refine (fun words : KeepsDepth d _ => keepsDepth_peek_bind words fun l ls => ?_) ?_
  case refine_2 =>
    refine KeepsDepth.bind (keepsDepth_oneOf? (by decide)) fun key => ?_
    split
    · exact keepsDepth_pure _
    · split
      · next postgres => exact postgres ▸ keepsDepth_namedOperator
      · exact keepsDepth_pure _
  split
  · next mark same =>
    obtain rfl := Option.some.inj same
    split
    · next is_binary => exact lifts_next (isNeutral_symbol_iff.2 (symbols mark is_binary)) (.pure _)
    · exact .pure _
  · next mark same =>
    obtain rfl := Option.some.inj same
    exact lifts_next ⟨nofun, nofun, nofun⟩ (.pure _)
  · exact words _

section Operators

variable {inner : Inner} (h : inner.Keeps d)

include h

@[grind ←]
theorem keepsDepth_rightOf (operator : String) (p : Nat) (left : Tree) :
    KeepsDepth d (rightOf inner operator p left) := by
  unfold rightOf
  refine KeepsDepth.bind (keepsDepth_oneOf? (by decide)) fun key => ?_
  split
  all_goals grind

@[grind ←]
theorem keepsDepth_test (left : Tree) : KeepsDepth d (test inner left) := by
  unfold test
  iterate 10
    refine KeepsDepth.bind (keepsDepth_words? (by decide)) fun found => .ite ?_ ?_
    · grind
  grind

@[grind ←]
theorem keepsDepth_membership (left : Tree) : KeepsDepth d (membership d inner left) := by
  unfold membership
  grind

@[grind ←]
theorem keepsDepth_between (left : Tree) : KeepsDepth d (between d inner left) := by
  unfold between
  grind

@[grind ←]
theorem keepsDepth_pattern (head : String) (left : Tree) : KeepsDepth d (pattern d inner head left) := by
  unfold pattern
  grind

@[grind ←]
theorem keepsDepth_negatable (left : Tree) : KeepsDepth d (negatable d inner left) := by
  unfold negatable
  refine KeepsDepth.bind (keepsDepth_word? (by decide)) fun _ => keepsDepth_peekKey.bind fun key => .ite ?_ ?_
  · grind
  · refine KeepsDepth.bind (keepsDepth_word? (by decide)) fun _ => .ite (keepsDepth_membership h left) ?_
    refine KeepsDepth.bind (keepsDepth_word? (by decide)) fun _ => .ite (keepsDepth_between h left) ?_
    grind

@[grind ←]
theorem keepsDepth_wordOperator (p : Nat) (left : Tree) : KeepsDepth d (wordOperator d inner p left) := by
  unfold wordOperator
  grind

@[grind ←]
theorem keepsDepth_exprUpTo {mark : String} (neutral : mark ≠ "(" ∧ mark ≠ ")" ∧ mark ≠ ";") :
    KeepsDepth d (exprUpTo inner mark) := by
  unfold exprUpTo
  grind

@[grind ←]
theorem keepsDepth_subscript (left : Tree) : KeepsDepth d (subscript inner left) := by
  unfold subscript
  repeat' with_reducible first | refine KeepsDepth.bind ?_ fun _ => ?_ | refine .ite ?_ ?_
  all_goals grind

@[grind ←]
theorem keepsDepth_keys (left : Tree) : KeepsDepth d (keys inner left) := by
  unfold keys
  grind

@[grind ←]
theorem keepsDepth_infixOperator (p : Nat) (left : Tree) : KeepsDepth d (infixOperator d inner p left) := by
  unfold infixOperator
  refine keepsDepth_peekKey.bind fun key => ?_
  split
  all_goals grind

end Operators

/-! ## Sources -/

section Sources

@[grind ←]
theorem keepsDepth_otherName? (reserved : List String) : KeepsDepth d (otherName? reserved) := by
  unfold otherName?
  refine KeepsDepth.bind (keepsDepth_word? (by decide)) fun named => ?_
  refine keepsDepth_peek_bind (.ite keepsDepth_refuse (keepsDepth_pure _)) fun l ls => ?_
  split
  · next same =>
    obtain rfl := Option.some.inj same
    split
    · exact lifts_next ⟨nofun, nofun, nofun⟩ (.pure _)
    · exact .pure _
  case h_2 same | h_3 same =>
    obtain rfl := Option.some.inj same
    exact lifts_next ⟨nofun, nofun, nofun⟩ (.pure _)
  · exact KeepsDepth.ite keepsDepth_refuse (keepsDepth_pure _) _

@[grind ←]
theorem keepsDepth_columnNames (d' : Dialect) : KeepsDepth d (columnNames d') := by
  have column : KeepsDepth d (do
      let _ ← name
      let _ ← attempt (typeName d')) := by
    grind
  have columns : Closes d (do
      let _ ← items d' do
        let _ ← name
        let _ ← attempt (typeName d')
      symbol ")") :=
    (column.items d').bind_closes fun _ => closes_closing
  unfold columnNames
  grind

@[grind ←]
theorem keepsDepth_tableAlias (d' : Dialect) : KeepsDepth d (tableAlias d') := by
  unfold tableAlias
  grind

@[grind ←]
theorem keepsDepth_joinSide : KeepsDepth d joinSide := by
  have left : KeepsDepth d (do
      let _ ← oneOf? ["OUTER", "SEMI", "ANTI"]
      word "JOIN") := by
    grind
  have full : KeepsDepth d (do
      word "FULL"
      let _ ← word? "OUTER"
      word "JOIN") := by
    grind
  unfold joinSide
  refine keepsDepth_peekKey_bind keepsDepth_refuse fun l ls neutral => ?_
  split
  · exact keepsDepth_word (by decide) _
  · exact keepsDepth_words (by decide) _
  case h_3 | h_4 => exact lifts_next neutral (left _)
  case h_5 | h_6 => exact lifts_next neutral (keepsDepth_word (by decide) _)
  · exact full _
  · exact .refuse

@[grind ←]
theorem keepsDepth_joinKind? : KeepsDepth d joinKind? := by
  unfold joinKind?
  grind

variable {inner : Inner} (h : inner.Keeps d)

include h

@[grind ←]
theorem keepsDepth_joinCondition : KeepsDepth d (joinCondition d inner) := by
  unfold joinCondition
  grind

theorem keepsDepth_joinsWithin {source : Read Tree} (h' : KeepsDepth d source) (bound : Nat) :
    KeepsDepth d (joinsWithin d inner source bound) := by
  induction bound with
  | zero => exact keepsDepth_pure _
  | succ bound ih =>
    unfold joinsWithin
    refine keepsDepth_joinKind?.bind fun kind => ?_
    split
    · exact keepsDepth_pure _
    · refine h'.bind fun joined => ?_
      split
      all_goals grind

@[grind ←]
theorem keepsDepth_joinedSource {source : Read Tree} (h' : KeepsDepth d source) :
    KeepsDepth d (joinedSource d inner source) := by
  have joins := KeepsDepth.withBound (keepsDepth_joinsWithin h h')
  unfold joinedSource
  grind

@[grind ←]
theorem closes_derived : Closes d (derived d inner) := by
  unfold derived
  grind

@[grind ←]
theorem closes_tableArguments : Closes d (tableArguments d inner) := by
  unfold tableArguments
  grind

@[grind ←]
theorem keepsDepth_table : KeepsDepth d (table d inner) := by
  have version : KeepsDepth d (whenever (words? ["FOR", "SYSTEM_TIME", "AS", "OF"]) inner.expr) :=
    .whenever (keepsDepth_words? (by decide)) h.expr
  unfold table
  repeat' with_reducible first | refine KeepsDepth.bind ?_ fun _ => ?_ | refine .ite ?_ ?_
  all_goals grind

@[grind ←]
theorem closes_joinedInParens {source : Read Tree} (h' : KeepsDepth d source) :
    Closes d (joinedInParens d inner source) := by
  unfold joinedInParens
  grind

theorem keepsDepth_sourceWithin (bound : Nat) : KeepsDepth d (sourceWithin d inner bound) := by
  induction bound with
  | zero => exact keepsDepth_refuse
  | succ bound ih =>
    unfold sourceWithin
    refine KeepsDepth.bind (keepsDepth_word? (by decide)) fun _ => .ite ?_ ?_
    · grind
    refine KeepsDepth.bind (keepsDepth_word? (by decide)) fun _ => .ite ?_ ?_
    · grind
    refine keepsDepth_opening?_bind ?_ ?_
    · grind
    · grind

@[grind ←]
theorem keepsDepth_source : KeepsDepth d (source d inner) :=
  KeepsDepth.withBound (keepsDepth_sourceWithin h)

end Sources

/-! ## Statements -/

section Statements

@[grind ←]
theorem keepsDepth_target : KeepsDepth d target := by
  unfold target
  repeat' with_reducible first | refine KeepsDepth.bind ?_ fun _ => ?_ | refine .ite ?_ ?_
  all_goals grind

@[grind ←]
theorem keepsDepth_setOperator? : KeepsDepth d setOperator? := by
  unfold setOperator?
  grind

@[grind ←]
theorem keepsDepth_fetch (d' : Dialect) : KeepsDepth d (fetch d') := by
  unfold fetch
  grind

@[grind ←]
theorem keepsDepth_purposesWithin (bound : Nat) : KeepsDepth d (purposesWithin bound) := by
  induction bound with
  | zero => exact keepsDepth_pure _
  | succ bound ih =>
    unfold purposesWithin
    grind

/-- What is read as the name of a table holds any lexemes, unless a point joins two words. -/
theorem wholeTable_eq_ok {ls rest : List Lexeme} {t : Tree} (read : wholeTable ls = .ok (t, rest)) :
    ∃ value quote unread, ls = .word value quote :: unread ++ rest ∧
      (unread.length ≤ 2 ∧ unread.head? ≠ some (.symbol ".") ∨
        ∃ value' quote', unread = [.symbol ".", .word value' quote']) := by
  unfold wholeTable at read
  obtain ⟨_, _, takes, read⟩ := bind_eq_ok.1 read
  obtain ⟨_, _, takes', read⟩ := bind_eq_ok.1 read
  obtain ⟨_, _, takes'', read⟩ := bind_eq_ok.1 read
  cases takes
  cases takes'
  cases takes''
  split at read
  case isFalse => cases read
  next named =>
  cases read
  obtain ⟨first_named, no_point | last_named⟩ := (Bool.and_eq_true_iff.1 named).imp_right Bool.or_eq_true_iff.1
  all_goals
    obtain ⟨value, quote, ls, rfl⟩ : ∃ value quote behind, ls = .word value quote :: behind := by
      rcases ls with _ | ⟨_ | _, ls⟩
      case cons.word => exact ⟨_, _, _, rfl⟩
      all_goals cases first_named
  · exact ⟨value, quote, ls.take 2, by simp, .inl ⟨List.length_take_le _ _, by simpa [List.head?_take] using no_point⟩⟩
  · obtain ⟨second, value', quote', ls, rfl⟩ :
        ∃ second value' quote' behind, ls = second :: .word value' quote' :: behind := by
      rcases ls with _ | ⟨second, _ | ⟨_ | _, ls⟩⟩
      case cons.cons.word => exact ⟨_, _, _, _, rfl⟩
      all_goals cases last_named
    refine ⟨value, quote, [second, .word value' quote'], rfl, ?_⟩
    by_cases point : second = .symbol "."
    · exact .inr ⟨value', quote', by rw [point]⟩
    · exact .inl ⟨Nat.le_refl _, by simpa using point⟩

theorem keepsDepth_wholeTable : KeepsDepth d (do if ← word? "TABLE" then wholeTable else refuse) := by
  intro ls a rest read
  rcases takeIf_bind_cases read with ⟨word, behind, is_word, rfl, taken⟩ | ⟨-, not_taken⟩
  case inr => cases not_taken
  have key : word.key = "TABLE" := beq_iff_eq.1 is_word
  have neutral : word.IsNeutral := isNeutral_of_key (by rw [key]; decide)
  have named (value : String) (quote : Option Char) : (Lexeme.word value quote).IsNeutral := ⟨nofun, nofun, nofun⟩
  obtain ⟨value, quote, unread, rfl, ⟨few, no_point⟩ | ⟨value', quote', rfl⟩⟩ := wholeTable_eq_ok taken
  · refine ⟨.rule (.ofTokens (word :: .word value quote :: unread)) .nothing, by simp [Taken.tokens], ?_,
      fun _ => rfl⟩
    simpa [Taken.inner] using TakenUnread.table value quote key few no_point
  · refine exists_taken_read d [word, .word value quote, .symbol ".", .word value' quote'] rest fun n => ?_
    rw [openBehind_neutral neutral, openBehind_neutral (named _ _), openBehind_neutral (by decide),
      openBehind_neutral (named _ _)]
    rfl

variable {inner : Inner} (h : inner.Keeps d)

include h

@[grind ←]
theorem keepsDepth_replacement : KeepsDepth d (replacement inner) := by
  unfold replacement
  grind

@[grind ←]
theorem keepsDepth_starOptions : KeepsDepth d (starOptions d inner) := by
  have replaced : KeepsDepth d (whenever (word? "REPLACE") (inParens (items d (replacement inner)))) := by
    grind
  unfold starOptions
  grind

@[grind ←]
theorem keepsDepth_selected : KeepsDepth d (selected d inner) := by
  unfold selected
  refine (keepsDepth_exprOrStar h).bind fun e => ?_
  split
  all_goals grind

@[grind ←]
theorem keepsDepth_distinctness : KeepsDepth d (distinctness d inner) := by
  have chosen : KeepsDepth d (inParens (do
      if (← peek) = some (.symbol ")") then return [] else items d inner.expr)) := by
    refine .inParens ?_
    grind
  unfold distinctness
  grind

@[grind ←]
theorem keepsDepth_top : KeepsDepth d (top inner) := by
  unfold top
  repeat' with_reducible first | refine KeepsDepth.bind ?_ fun _ => ?_ | refine .ite ?_ ?_
  all_goals grind

@[grind ←]
theorem keepsDepth_tuple : KeepsDepth d (tuple d inner) := by
  unfold tuple
  grind

@[grind ←]
theorem keepsDepth_tupleOrExpr : KeepsDepth d (tupleOrExpr d inner) := by
  unfold tupleOrExpr
  grind

@[grind ←]
theorem keepsDepth_groupItem : KeepsDepth d (groupItem d inner) := by
  have joined : ∀ n, openBehind Lexeme.mark n [.symbol "(", .symbol ")"] = some n := by
    intro n
    rw [openBehind_opening rfl, openBehind_closing rfl, openBehind]
  have one : KeepsDepth d (do
      if (← peek) = some (.symbol "(") ∧ (← ahead 1) = some (.symbol ")") then do
        modify (·.drop 2)
        return .form "()" []
      else inner.expr) := by
    refine keepsDepth_peek_bind ?_ fun l ls => ?_
    · grind
    change Lifts d 0 0 (if some l = _ ∧ ls[0]? = _ then _ else _) _
    split
    · next empty =>
      obtain ⟨first, second⟩ := empty
      obtain rfl := Option.some.inj first
      rcases ls with _ | ⟨l, ls⟩
      · cases second
      · cases second
        exact lifts_modify_drop joined (.pure _)
    · exact h.expr _
  unfold groupItem
  split
  · refine KeepsDepth.bind (keepsDepth_words? (by decide)) fun _ => .ite ?_ ?_
    · grind
    refine KeepsDepth.bind (keepsDepth_word? (by decide)) fun _ => .ite ?_ ?_
    · grind
    refine KeepsDepth.bind (keepsDepth_word? (by decide)) fun _ => .ite ?_ one
    grind
  · exact h.expr

@[grind ←]
theorem keepsDepth_groups : KeepsDepth d (groups d inner) := by
  unfold groups
  grind

@[grind ←]
theorem keepsDepth_listAfter {keys : List String} (words : "" ∉ keys) : KeepsDepth d (listAfter d inner keys) := by
  unfold listAfter
  grind

@[grind ←]
theorem keepsDepth_exprAfter {key : String} (word : key ≠ "") : KeepsDepth d (exprAfter inner key) := by
  unfold exprAfter
  grind

@[grind ←]
theorem keepsDepth_namedWindow : KeepsDepth d (namedWindow d inner) := by
  unfold namedWindow
  grind

@[grind ←]
theorem keepsDepth_namedWindows : KeepsDepth d (namedWindows d inner) := by
  unfold namedWindows
  grind

@[grind ←]
theorem keepsDepth_windowsAndCondition : KeepsDepth d (windowsAndCondition d inner) := by
  unfold windowsAndCondition
  grind

@[grind ←]
theorem keepsDepth_selection : KeepsDepth d (selection d inner) := by
  unfold selection
  repeat' with_reducible refine KeepsDepth.bind ?_ fun _ => ?_
  all_goals grind

@[grind ←]
theorem keepsDepth_row : KeepsDepth d (row d inner) := by
  unfold row
  grind

theorem keepsDepth_rows : KeepsDepth d (rows d inner) := by
  have listed : KeepsDepth d (do return Tree.form "VALUES" (← items d (row d inner)).flatten) := by
    grind
  unfold rows
  refine KeepsDepth.bind (keepsDepth_word? (by decide)) fun _ => .ite (keepsDepth_selection h) ?_
  refine keepsDepth_opening?_bind ?_ ?_
  · grind
  · exact KeepsDepth.bind (keepsDepth_word? (by decide)) fun _ => .ite listed keepsDepth_wholeTable

@[grind ←]
theorem keepsDepth_namedQuery : KeepsDepth d (namedQuery d inner) := by
  unfold namedQuery
  repeat' with_reducible first | refine KeepsDepth.bind ?_ fun _ => ?_ | refine .ite ?_ ?_
  all_goals grind

@[grind ←]
theorem keepsDepth_namedQueries : KeepsDepth d (namedQueries d inner) := by
  unfold namedQueries
  grind

@[grind ←]
theorem keepsDepth_moreLimits (limits : Limits) : KeepsDepth d (moreLimits d inner limits) := by
  unfold moreLimits
  repeat' with_reducible first | refine KeepsDepth.bind ?_ fun _ => ?_ | refine .ite ?_ ?_
  all_goals grind

@[grind ←]
theorem keepsDepth_query : KeepsDepth d (query d inner) := by
  have others := KeepsDepth.repeated (keepsDepth_setOperator?) (keepsDepth_rows h)
  have first := keepsDepth_rows h
  unfold query
  repeat' with_reducible refine KeepsDepth.bind ?_ fun _ => ?_
  all_goals grind

end Statements

/-! ## Nesting -/

theorem keepsDepth_operatorsAbove {inner : Inner} (h : inner.Keeps d) (p : Nat) (left : Tree) (bound : Nat) :
    KeepsDepth d (operatorsAbove d inner p left bound) := by
  induction bound generalizing left with
  | zero => exact keepsDepth_pure _
  | succ bound ih =>
    unfold operatorsAbove
    have one (tightness : Nat) : KeepsDepth d (do
        operatorsAbove d inner p (← infixOperator d inner tightness left) bound) :=
      (keepsDepth_infixOperator h tightness left).bind ih
    exact fun ls => lifts_get_bind (KeepsDepth.ite (one _) (keepsDepth_pure left) ls)

theorem keepsDepth_exprOn {inner : Inner} (h : inner.Keeps d) (p : Nat) : KeepsDepth d (exprOn d inner p) :=
  h.operand.bind fun first => .withBound (keepsDepth_operatorsAbove h p first)

/-- The rules for each depth close the parentheses that they open. -/
theorem keeps_level (d : Dialect) (depth : Nat) : (level d depth).Keeps d := by
  induction depth with
  | zero =>
    constructor
    · rintro _ _ _ _ ⟨⟩
    · rintro _ _ _ ⟨⟩
  | succ depth ih => exact ⟨keepsDepth_exprOn ih.above, keepsDepth_query ih.above⟩

/-- A filter closes the parentheses that it opens. -/
theorem keepsDepth_expression (d : Dialect) : KeepsDepth d (expression d) :=
  (keeps_level d maxDepth).exprAbove 0

end Joinery.Filter.Grammar
