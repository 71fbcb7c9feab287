import Joinery.Filter.Grammar.Operand
import Joinery.Proofs.Filter.Depth

/-!
# Parentheses in operands

Names of types, calls and operands close the parentheses that they open, as long as the expressions and
statements inside them do (`Inner.Keeps`). What is read behind an opening parenthesis closes this one as well.
-/

namespace Joinery.Filter.Grammar

variable {d : Dialect} {α : Type}

/-! ## Types -/

@[grind ←]
theorem KeepsDepth.optionalParens {rule : Read Unit} (h : KeepsDepth d rule) :
    KeepsDepth d (optionalParens rule) := by
  unfold Grammar.optionalParens
  refine KeepsDepth.bind (keepsDepth_whenever_opening ?_) fun _ => keepsDepth_pure _
  exact h.bind_closes fun _ => closes_closing

@[grind ←]
theorem keepsDepth_optionalSize : KeepsDepth d optionalSize :=
  KeepsDepth.optionalParens keepsDepth_wholeNumber

@[grind ←]
theorem keepsDepth_optionalSizes : KeepsDepth d optionalSizes := by
  unfold optionalSizes
  grind

@[grind ←]
theorem keepsDepth_optionalLength : KeepsDepth d optionalLength := by
  unfold optionalLength
  grind

@[grind ←]
theorem keepsDepth_optionalZone : KeepsDepth d optionalZone := by
  unfold optionalZone
  grind

/-- The arguments of a type of the user's own hold no parentheses but the one that closes them. -/
@[grind ←]
theorem closes_ownArguments (bound : Nat) : Closes d (ownArguments bound) := by
  induction bound with
  | zero => exact closes_refuse
  | succ bound ih =>
    unfold ownArguments
    refine lifts_next_bind (fun l neutral => ?_) .refuse (lifts_next_bind_refuse rfl) (fun ls => ?_)
      (lifts_next_bind_refuse rfl)
    · have not_closing := neutral.not_closing
      change Closes d _
      grind
    · exact lifts_next_closing (.pure _)

@[grind ←]
theorem keepsDepth_closeAngle (spare : Bool) : KeepsDepth d (closeAngle spare) := by
  unfold closeAngle
  grind

@[grind ←]
theorem keepsDepth_fields {type : Read TypeRead} (h : KeepsDepth d type) (d' : Dialect) :
    KeepsDepth d (fields d' type) := by
  unfold fields
  have field : KeepsDepth d (do
      let _ ← name
      if (← type).spareBracket then refuse else return ()) :=
    keepsDepth_name.bind fun _ => h.bind fun _ => .ite keepsDepth_refuse (keepsDepth_pure _)
  grind

@[grind ←]
theorem keepsDepth_own : KeepsDepth d typeBase.own := by
  unfold typeBase.own
  grind

theorem keepsDepth_typeBase {inner : Read TypeRead} (h : KeepsDepth d inner) (d' : Dialect) :
    KeepsDepth d (typeBase d' inner) := by
  unfold typeBase
  refine keepsDepth_peekKey.bind fun key => keepsDepth_next_bind (fun l _ => ?_) keepsDepth_refuse rfl rfl rfl
  have time : KeepsDepth d (inParens (do
      wholeNumber
      let _ ← whenever (symbol? ",") (textLiteral d'))) := by
    refine .inParens ?_
    grind
  have member : KeepsDepth d (do
      textLiteral d'
      let _ ← whenever (symbol? "=") (value d')) := by
    grind
  have members := (member.items d').inParens
  split
  · iterate 4
      split
      · grind
    split
    case h_15 =>
      refine .seq (.inParens (.items ?_ _)) (keepsDepth_pure _)
      exact keepsDepth_next_bind (fun l _ => by grind) keepsDepth_refuse rfl rfl rfl
    all_goals grind
  · exact keepsDepth_refuse

theorem keepsDepth_typeWithin (d' : Dialect) (bound : Nat) : KeepsDepth d (typeWithin d' bound) := by
  induction bound with
  | zero => exact keepsDepth_refuse
  | succ bound ih =>
    unfold typeWithin
    have bracket : KeepsDepth d (symbol? "[") := keepsDepth_symbol? (by decide)
    refine (keepsDepth_typeBase ih d').bind fun base => (bracket.repeated ?_).bind fun brackets => ?_
    all_goals
      split_ifs
      all_goals grind

@[grind ←]
theorem keepsDepth_typeName (d' : Dialect) : KeepsDepth d (typeName d') := by
  unfold typeName
  have type := KeepsDepth.withBound (keepsDepth_typeWithin (d := d) d')
  grind

/-! ## Rules that hold expressions -/

/-- The expressions and statements inside a form close the parentheses that they open. -/
structure Deeper.Keeps (d : Dialect) (deeper : Deeper) : Prop where
  exprAbove : ∀ p, KeepsDepth d (deeper.exprAbove p)
  query : KeepsDepth d deeper.query

/-- The rules that a form is made of close the parentheses that they open. -/
structure Inner.Keeps (d : Dialect) (inner : Inner) : Prop where
  deeper : inner.toDeeper.Keeps d
  operand : KeepsDepth d inner.operand

namespace Inner.Keeps

variable {inner : Inner}

@[grind ←]
theorem exprAbove (h : inner.Keeps d) (p : Nat) : KeepsDepth d (inner.exprAbove p) :=
  h.deeper.exprAbove p

@[grind ←]
theorem expr (h : inner.Keeps d) : KeepsDepth d inner.expr :=
  h.exprAbove 0

@[grind ←]
theorem query (h : inner.Keeps d) : KeepsDepth d inner.query :=
  h.deeper.query

end Inner.Keeps

/-! ## Calls -/

section Calls

variable {inner : Inner} (h : inner.Keeps d)

@[grind ←]
theorem keepsDepth_timeField : KeepsDepth d (timeField d) := by
  unfold timeField
  refine keepsDepth_peekKey.bind fun key => ?_
  refine keepsDepth_next_bind (fun l _ => ?_) keepsDepth_refuse rfl rfl rfl
  grind

include h

@[grind ←]
theorem keepsDepth_interval : KeepsDepth d (interval d inner) := by
  have second : KeepsDepth d (do if (← timeField d) = "SECOND" then optionalSize) := by grind
  have range := (keepsDepth_word? (d := d) (by decide : "TO" ≠ "")).whenever second
  have operand := h.operand
  unfold interval
  split
  all_goals
    repeat' with_reducible refine KeepsDepth.bind ?_ fun _ => ?_
    all_goals grind

@[grind ←]
theorem keepsDepth_orderItem : KeepsDepth d (orderItem inner) := by
  unfold orderItem
  refine h.expr.bind fun e => ?_
  grind

@[grind ←]
theorem keepsDepth_orderBy : KeepsDepth d (orderBy d inner) := by
  unfold orderBy
  grind

@[grind ←]
theorem keepsDepth_frameBound : KeepsDepth d (frameBound d inner) := by
  unfold frameBound
  refine (keepsDepth_words? (by decide)).bind fun current => .ite (keepsDepth_pure _) ?_
  refine (keepsDepth_word? (by decide)).bind fun unbounded => ?_
  split
  · grind
  · refine keepsDepth_peek.bind fun first => ?_
    split
    all_goals
      repeat' with_reducible refine KeepsDepth.bind ?_ fun _ => ?_
      all_goals grind

@[grind ←]
theorem keepsDepth_frame : KeepsDepth d (frame d inner) := by
  unfold frame
  grind

@[grind ←]
theorem closes_window : Closes d (window d inner) := by
  have tail : Closes d (do
      let groups ← whenever (words? ["PARTITION", "BY"]) (items d inner.expr)
      let order ← orderBy d inner
      let rows ←
        if ← symbol? ")" then pure []
        else do
          let rows ← frame d inner
          symbol ")"
          pure rows
      return groups.getD [] ++ order ++ rows) := by
    refine KeepsDepth.bind_closes (by grind) fun groups => (keepsDepth_orderBy h).bind_closes fun order => ?_
    grind
  unfold window
  refine keepsDepth_peek.bind_closes fun first => ?_
  split
  · split
    · split
      · exact tail
      · exact keepsDepth_name.bind_closes fun _ => tail
    · exact tail
  · exact tail

omit h in
@[grind ←]
theorem keepsDepth_endsInStar (bound : Nat) : KeepsDepth d (endsInStar bound) := by
  induction bound with
  | zero => exact keepsDepth_refuse
  | succ bound ih =>
    unfold endsInStar
    refine (keepsDepth_symbol? (by decide)).bind fun point => .ite ?_ (keepsDepth_pure _)
    refine keepsDepth_next_bind (fun l _ => ?_) keepsDepth_refuse rfl rfl rfl
    grind

/-- Where the names do not end in a star, they are read again as an expression. -/
@[grind ←]
theorem keepsDepth_exprOrStar : KeepsDepth d (exprOrStar inner) := by
  intro ls
  cases ls with
  | nil => exact h.expr []
  | cons l ls =>
    have names (neutral : l.IsNeutral) : Lifts d 0 0 (do
        let _ ← next
        if ← withBound endsInStar then return star
        else do
          set (l :: ls)
          inner.expr) (l :: ls) := by
      intro a rest read
      obtain ⟨_, _, ⟨⟩, read⟩ := bind_eq_ok.1 read
      obtain ⟨isStar, middle, names, read⟩ := bind_eq_ok.1 read
      cases isStar with
      | true =>
        cases read
        have taken : Lifts d 0 0 (next >>= fun _ => withBound endsInStar) (l :: ls) :=
          lifts_next neutral (keepsDepth_endsInStar _ _)
        exact taken _ _ names
      | false => exact h.expr _ _ _ read
    cases l with
    | word value quote => exact names ⟨nofun, nofun, nofun⟩
    | text quoting value =>
      cases quoting with
      | single => exact names ⟨nofun, nofun, nofun⟩
      | _ => exact h.expr _
    | symbol mark =>
      by_cases is_star : mark = "*"
      · subst is_star
        have neutral : (Lexeme.symbol "*").IsNeutral := by decide
        exact lifts_get_bind (lifts_next neutral (.pure star))
      · refine lifts_get_bind (lifts_next_reset ?_ (h.expr _))
        grind
    | number | placeholder | operator | other => exact h.expr _

omit h in
@[grind ←]
theorem keepsDepth_argumentMark : KeepsDepth d (argumentMark d) := by
  unfold argumentMark
  grind

@[grind ←]
theorem keepsDepth_namedArgument : KeepsDepth d (namedArgument d inner) := by
  unfold namedArgument
  grind

@[grind ←]
theorem keepsDepth_argument : KeepsDepth d (argument d inner) := by
  unfold argument
  grind

omit h in
@[grind ←]
theorem keepsDepth_nullTreatment : KeepsDepth d nullTreatment := by
  unfold nullTreatment
  grind

@[grind ←]
theorem keepsDepth_overflow : KeepsDepth d (overflow inner) := by
  unfold overflow
  refine (keepsDepth_words? (by decide)).bind fun here => ?_
  split
  · refine (keepsDepth_word? (by decide)).bind fun error => ?_
    split
    · exact keepsDepth_pure _
    · refine (keepsDepth_word (by decide)).seq (keepsDepth_peek.bind fun first => ?_)
      split
      all_goals
        repeat' with_reducible refine KeepsDepth.bind ?_ fun _ => ?_
        all_goals grind
  · exact keepsDepth_pure _

@[grind ←]
theorem closes_arguments : Closes d (arguments d inner) := by
  have closing {α : Type} (a : α) : Closes d (do
      symbol ")"
      return a) :=
    closes_closing.bind fun _ => keepsDepth_pure _
  unfold arguments
  refine closes_closing?_bind (keepsDepth_pure _) ?_
  refine KeepsDepth.bind_closes (keepsDepth_word? (by decide)) fun is_all => ?_
  repeat' with_reducible first
    | exact closing _
    | refine KeepsDepth.bind_closes ?_ fun _ => ?_
    | refine Closes.ite ?_ ?_
  all_goals grind

/-- Behind the word for a condition on rows, a parenthesis may be left open. -/
@[grind ←]
theorem keepsDepth_aggregateFilter : KeepsDepth d (aggregateFilter d inner) := by
  have condition : Closes d (do
      let e ← inner.expr
      symbol ")"
      return [e]) := by
    grind
  unfold aggregateFilter
  split
  case isFalse => exact keepsDepth_pure _
  case isTrue dialect =>
    intro ls a rest read
    rcases takeIf_bind_cases read with ⟨word, behind, is_filter, rfl, taken⟩ | ⟨-, not_taken⟩
    case inr => exact Lifts.pure [] a rest not_taken
    have key : word.key = "FILTER" := beq_iff_eq.1 is_filter
    have word_neutral : word.IsNeutral := isNeutral_of_key (by rw [key]; decide)
    rcases takeIf_bind_cases taken with ⟨opening, inside, is_opening, rfl, opened⟩ | ⟨-, not_opened⟩
    case inr =>
      have word_only : Lifts d 0 0 (next >>= fun _ => pure ([] : List Tree)) (word :: behind) :=
        lifts_next word_neutral (.pure [])
      exact word_only a rest not_opened
    obtain rfl := of_decide_eq_true is_opening
    rcases takeIf_bind_cases opened with ⟨word', tail, is_where, rfl, conditional⟩ | ⟨-, unread⟩
    · have word'_neutral : word'.IsNeutral := isNeutral_of_key (by rw [beq_iff_eq.1 is_where]; decide)
      have whole : Lifts d 0 0 (do
          let _ ← next
          let _ ← next
          let _ ← next
          let e ← inner.expr
          symbol ")"
          return [e]) (word :: .symbol "(" :: word' :: tail) :=
        lifts_next word_neutral (lifts_next_opening (lifts_next word'_neutral (condition tail)))
      exact whole a rest conditional
    · cases unread
      refine ⟨.rule (.ofTokens [word, .symbol "("]) .nothing, rfl, ?_, fun _ => rfl⟩
      exact List.forall_mem_singleton.2 (.filter dialect key)

@[grind ←]
theorem keepsDepth_rowsOver : KeepsDepth d (rowsOver d inner) := by
  unfold rowsOver
  grind

@[grind ←]
theorem keepsDepth_call (function : List Name) : KeepsDepth d (call d inner function) := by
  have order : KeepsDepth d (inParens (do
      words ["ORDER", "BY"]
      items d (orderItem inner))) := by
    refine .inParens ?_
    grind
  have words : KeepsDepth d (words? ["WITHIN", "GROUP"]) := keepsDepth_words? (by decide)
  have group := words.whenever order
  unfold call
  refine keepsDepth_opening_bind ((closes_arguments h).bind fun (args, nulls) => ?_)
  repeat' with_reducible refine KeepsDepth.bind ?_ fun _ => ?_
  all_goals grind

end Calls

/-! ## Operands -/

section Operands

variable {inner : Inner} (h : inner.Keeps d)

include h

theorem keepsDepth_cases (bound : Nat) : KeepsDepth d (cases inner bound) := by
  induction bound with
  | zero => exact keepsDepth_refuse
  | succ bound ih =>
    unfold cases
    repeat' with_reducible refine KeepsDepth.bind ?_ fun _ => ?_
    all_goals grind

@[grind ←]
theorem keepsDepth_choice : KeepsDepth d (choice inner) := by
  have all := KeepsDepth.withBound (keepsDepth_cases h)
  unfold choice
  repeat' with_reducible refine KeepsDepth.bind ?_ fun _ => ?_
  all_goals grind

@[grind ←]
theorem keepsDepth_cast : KeepsDepth d (cast d inner) := by
  unfold Grammar.cast
  refine .inParens ?_
  repeat' with_reducible refine KeepsDepth.bind ?_ fun _ => ?_
  all_goals grind

@[grind ←]
theorem keepsDepth_convert : KeepsDepth d (convert d inner) := by
  unfold convert
  refine .inParens ?_
  split
  all_goals
    repeat' with_reducible refine KeepsDepth.bind ?_ fun _ => ?_
    all_goals grind

@[grind ←]
theorem keepsDepth_existence : KeepsDepth d (existence inner) := by
  unfold existence
  grind

@[grind ←]
theorem keepsDepth_extract : KeepsDepth d (extract d inner) := by
  unfold extract
  refine .inParens ?_
  grind

@[grind ←]
theorem keepsDepth_rounding (head : String) : KeepsDepth d (rounding d inner head) := by
  unfold rounding
  refine .inParens ?_
  repeat' with_reducible refine KeepsDepth.bind ?_ fun _ => ?_
  all_goals grind

@[grind ←]
theorem keepsDepth_position (function : Name) : KeepsDepth d (position d inner function) := by
  unfold position
  refine KeepsDepth.bind (.attempt (.inParens ?_)) fun found => ?_
  all_goals grind

@[grind ←]
theorem keepsDepth_substring : KeepsDepth d (substring inner) := by
  unfold substring
  refine .inParens ?_
  repeat' with_reducible refine KeepsDepth.bind ?_ fun _ => ?_
  all_goals grind

@[grind ←]
theorem keepsDepth_overlay : KeepsDepth d (overlay inner) := by
  unfold overlay
  refine .inParens ?_
  repeat' with_reducible refine KeepsDepth.bind ?_ fun _ => ?_
  all_goals grind

@[grind ←]
theorem keepsDepth_trimmed : KeepsDepth d (trimmed inner) := by
  unfold trimmed
  refine .inParens ?_
  repeat' with_reducible refine KeepsDepth.bind ?_ fun _ => ?_
  all_goals grind

@[grind ←]
theorem keepsDepth_arrayItems : KeepsDepth d (arrayItems d inner) := by
  unfold arrayItems
  grind

@[grind ←]
theorem keepsDepth_negation : KeepsDepth d (negation d inner) := by
  unfold negation
  grind

omit h in
@[grind ←]
theorem keepsDepth_wordSearch : KeepsDepth d (wordSearch d) := by
  unfold wordSearch
  refine (keepsDepth_nameList d).bind fun _ => KeepsDepth.bind (keepsDepth_word (by decide)) fun _ => .inParens ?_
  repeat' with_reducible refine KeepsDepth.bind ?_ fun _ => ?_
  all_goals grind

@[grind ←]
theorem keepsDepth_pairs {key : Read (Option Tree)} (h' : KeepsDepth d key) : KeepsDepth d (pairs d inner key) := by
  have entry : KeepsDepth d (do
      let k ← key
      symbol ":"
      return Tree.formOf ":" [k, some (← inner.expr)]) := by
    grind
  have entries := entry.itemsUpTo d "\x7d"
  unfold pairs
  grind

@[grind ←]
theorem keepsDepth_clock (function : Name) : KeepsDepth d (clock d inner function) := by
  unfold clock
  grind

/-- The form that a word begins. -/
theorem keepsDepth_wordForm {first : Lexeme} {function : Name} {following : Option Lexeme} {rule : Read Tree}
    (begins : wordForm? d inner first function following = some rule) : KeepsDepth d rule := by
  have array : KeepsDepth d (do
      symbol "["
      arrayItems d inner) := by
    grind
  have rows : KeepsDepth d (do return Tree.form "ARRAY" [← inParens inner.query]) := by
    grind
  have keys : KeepsDepth d (do return some (← inner.expr)) := by
    grind
  unfold wordForm? at begins
  split at begins
  all_goals grind

omit h in
@[grind ←]
theorem keepsDepth_moreNames (bound : Nat) : KeepsDepth d (moreNames d bound) := by
  induction bound with
  | zero => exact keepsDepth_refuse
  | succ bound ih =>
    unfold moreNames
    refine (keepsDepth_symbol? (by decide)).bind fun point => .ite ?_ (keepsDepth_pure _)
    refine keepsDepth_next_bind (fun l _ => ?_) keepsDepth_refuse rfl rfl rfl
    grind

/-- What is read behind the names in front of an opening parenthesis. -/
theorem keepsDepth_called (names : List Name) : KeepsDepth d (do
    if (← peek) = some (.symbol "(") then
      if d = .tsql ∧ (← ahead 1) = some (.symbol "+") ∧ (← ahead 2) = some (.symbol ")") then do
        modify (·.drop 3)
        return .form "(+)" [.reference names]
      else call d inner names
    else return .reference names) := by
  have joined : ∀ n, openBehind Lexeme.mark n [.symbol "(", .symbol "+", .symbol ")"] = some n := by
    intro n
    rw [openBehind_opening rfl, openBehind_neutral (by decide), openBehind_closing rfl, openBehind]
  refine keepsDepth_peek_bind (keepsDepth_pure _) fun l ls => ?_
  split
  · next opening =>
    obtain rfl := Option.some.inj opening
    change Lifts d 0 0 (if d = .tsql ∧ ls[0]? = _ ∧ ls[1]? = _ then _ else _) _
    split
    · next plus =>
      obtain ⟨-, second, third⟩ := plus
      rcases ls with _ | ⟨a, _ | ⟨b, ls⟩⟩
      · cases second
      · cases third
      · cases second
        cases third
        exact lifts_modify_drop joined (.pure _)
    · exact keepsDepth_call h names _
  · exact .pure _

/-- A column, a call or a text behind a name that was taken. -/
@[grind ←]
theorem keepsDepth_named (first : Name) : KeepsDepth d (named d inner first) := by
  have text (quoting : Quoting) (value : String) (ls : List Lexeme) : Lifts d 0 0 (do
      if first.text.toList.head? = some '_' then do
        let _ ← next
        return Tree.form first.text []
      else return .reference [first]) (.text quoting value :: ls) := by
    split
    · exact lifts_next ⟨nofun, nofun, nofun⟩ (.pure _)
    · exact .pure _
  unfold named
  refine keepsDepth_peek_bind (keepsDepth_pure _) fun l ls => ?_
  split
  case h_1 | h_2 =>
    refine (KeepsDepth.withBound fun bound => keepsDepth_moreNames bound).bind (fun (names, isStar) => ?_) _
    exact .ite (keepsDepth_pure _) (keepsDepth_called h _)
  case h_3 same | h_4 same | h_5 same =>
    obtain rfl := Option.some.inj same
    exact text _ _ ls
  all_goals exact .pure _

/-- The methods of a value are called one after the other. -/
@[grind ←]
theorem keepsDepth_methods (e : Tree) : KeepsDepth d (methods d inner e) := by
  have point : KeepsDepth d (symbol? ".") := keepsDepth_symbol? (by decide)
  unfold methods
  split
  · refine KeepsDepth.bind (.attempt (KeepsDepth.bind (point.repeated ?_) fun calls => ?_)) fun chain => ?_
    · refine keepsDepth_next_bind (fun l _ => ?_) keepsDepth_refuse rfl rfl rfl
      grind
    · grind
    · grind
  · grind

@[grind ←]
theorem keepsDepth_suffixed (e : Tree) : KeepsDepth d (suffixed d inner e) := by
  unfold suffixed
  grind

/-- Where a form cannot be read, the same lexemes are read as a name. -/
theorem keepsDepth_formOrName (first : Lexeme) (function : Name) {rule : Read Tree} (h' : KeepsDepth d rule) :
    KeepsDepth d (formOrName d inner first function rule) := by
  intro ls e rest read
  have form : KeepsDepth d (rule >>= suffixed d inner) := h'.bind fun e => keepsDepth_suffixed h e
  unfold formOrName at read
  split at read
  · next e' middle found => exact form ls e rest (bind_eq_ok.2 ⟨e', middle, found, read⟩)
  · split at read
    · cases read
    · split at read
      · next found => 
        cases read
        exact keepsDepth_named h function ls _ _ found
      · cases read

theorem keepsDepth_wordOperand (first : Lexeme) (function : Name) :
    KeepsDepth d (wordOperand d inner first function) := by
  unfold wordOperand
  refine keepsDepth_peek.bind fun following => ?_
  split
  · grind
  · next rule begins => exact keepsDepth_formOrName h first function (keepsDepth_wordForm h begins)

@[grind ←]
theorem closes_parenthesized : Closes d (parenthesized d inner) := by
  have point : KeepsDepth d (symbol? ".") := keepsDepth_symbol? (by decide)
  unfold parenthesized
  refine keepsDepth_peekKey.bind_closes fun key =>
    .ite (h.query.bind_closes fun q => ?_) ((h.expr.items d).bind_closes fun es => ?_)
  all_goals
    refine (keepsDepth_pure _).bind_closes fun e => closes_closing.bind fun _ => point.bind fun _ => ?_
    refine .ite ?_ (keepsDepth_pure _)
    refine keepsDepth_next_bind (fun l _ => ?_) keepsDepth_refuse rfl rfl rfl
    grind

omit h in
theorem keepsDepth_placeholder (mark : String) : KeepsDepth d (symbolOperand.placeholder mark) := by
  refine keepsDepth_next_bind (fun l _ => ?_) keepsDepth_refuse rfl rfl rfl
  grind

theorem keepsDepth_symbolOperand {mark : String} (not_opening : mark ≠ "(") :
    KeepsDepth d (symbolOperand d inner mark) := by
  have placeholder := keepsDepth_placeholder (d := d) mark
  unfold symbolOperand
  split
  all_goals grind

@[grind ←]
theorem keepsDepth_typedLiteral : KeepsDepth d (typedLiteral d inner) := by
  unfold typedLiteral
  refine (keepsDepth_typeName d).bind fun type => ?_
  split
  all_goals grind

/-- A rule that takes a symbol and reads the operand that begins with it. -/
theorem lifts_next_symbolOperand {rule : Option Lexeme → Read Tree} {mark : String} {ls : List Lexeme}
    (reads : rule (some (.symbol mark)) = symbolOperand d inner mark >>= suffixed d inner) :
    Lifts d 0 0 (next >>= rule) (.symbol mark :: ls) := by
  by_cases is_opening : mark = "("
  · subst is_opening
    have whole : Closes d (symbolOperand d inner "(" >>= suffixed d inner) :=
      (closes_parenthesized h).bind fun e => keepsDepth_suffixed h e
    refine lifts_next_opening ?_
    rw [reads]
    exact whole ls
  by_cases is_closing : mark = ")"
  · subst is_closing
    exact lifts_next_bind_refuse (reads.trans rfl) ls
  by_cases is_semicolon : mark = ";"
  · subst is_semicolon
    exact lifts_next_bind_refuse (reads.trans rfl) ls
  refine lifts_next (isNeutral_symbol_iff.2 ⟨is_opening, is_closing, is_semicolon⟩) ?_
  rw [reads]
  exact (keepsDepth_symbolOperand h is_opening).bind (fun e => keepsDepth_suffixed h e) ls

theorem keepsDepth_operandStep : KeepsDepth d (operandStep d inner) := by
  unfold operandStep
  refine KeepsDepth.bind (.attempt (keepsDepth_typedLiteral h)) fun typed => ?_
  split
  · exact keepsDepth_pure _
  intro ls
  refine lifts_get_bind ?_
  rcases ls with _ | ⟨l, ls⟩
  · rintro _ _ ⟨⟩
  cases l with
  | word value quote =>
    exact lifts_next ⟨nofun, nofun, nofun⟩ (keepsDepth_wordOperand h _ _ _)
  | symbol mark =>
    by_cases is_brace : mark = "\x7b"
    · subst is_brace
      by_cases duckdb : d = .duckdb
      · subst duckdb
        refine lifts_next_reset rfl ?_
        refine KeepsDepth.bind (keepsDepth_pairs h ?_) (fun e => keepsDepth_suffixed h e) _
        grind
      · exact lifts_next_bind_refuse (if_neg duckdb) _
    · refine lifts_next_symbolOperand h ?_
      grind
  | text quoting v =>
    refine lifts_next ⟨nofun, nofun, nofun⟩ ?_
    cases quoting with
    | escaped => exact (KeepsDepth.ite (keepsDepth_suffixed h _) keepsDepth_refuse) _
    | _ => exact keepsDepth_suffixed h _ _
  | number | placeholder =>
    exact lifts_next ⟨nofun, nofun, nofun⟩ (keepsDepth_suffixed h _ _)
  | operator | other => exact lifts_next_bind_refuse rfl _

end Operands

/-- The operands of a level close the parentheses that they open where what is below it does. -/
theorem Deeper.Keeps.above {deeper : Deeper} (h : deeper.Keeps d) : (Inner.above d deeper).Keeps d := by
  refine ⟨h, ?_⟩
  change KeepsDepth d (withBound (operandWithin d deeper))
  refine KeepsDepth.withBound fun bound => ?_
  induction bound with
  | zero => exact keepsDepth_refuse
  | succ bound ih => exact keepsDepth_operandStep ⟨h, ih⟩

end Joinery.Filter.Grammar
