import Joinery.Proofs.Filter.Attribution
import Joinery.Proofs.Filter.Statements

/-!
# Filters are self-contained

The text of a filter stands in a statement as it was written, so it must not end the statement, and no parenthesis of it
may belong to what stands around it. A filter is one expression from its first token to its last, whatever parser it is
read with, and the rules of the parser's grammar take all of it between them (`SqlParser.TakesByRules`). So nothing but a
rule that takes a loose end of its own can let one into a statement (`TakesByRules.readFilter_whole`). The grammar of
the dialects has such rules (`takesByRules_tree`), and filters that make use of them (`hidden_lexemes_pass`).
-/

namespace Joinery

open Text

namespace Filter

/-- The tokens of an expression are taken by rules, each of which takes tokens of its own and leaves those between them to
the rules inside it. -/
structure SqlParser.TakesByRules (r : SqlParser) (rules : Dialect → List r.Token → Prop) : Prop where
  exists_taken {d : Dialect} {ts rest : List r.Token} {e : r.Expr} (read : r.expression d ts = some (e, rest)) :
    ∃ taken : Taken r.Token, ts = taken.tokens ++ rest ∧ ∀ own ∈ taken.rules, rules d own

/-- What a rule of the grammar takes of its own: lexemes that it looks at, or a run of lexemes that it takes unread. -/
def takesOwn (d : Dialect) (own : List Lexeme) : Prop :=
  IsSelfContained Lexeme.mark own ∨ TakenUnread d own

theorem takesByRules_tree : sqlParser.TakesByRules takesOwn where
  exists_taken {d ls rest t} read := by
    have read : Grammar.expression d ls = .ok (t, rest) := toOption_eq_some_iff.1 read
    obtain ⟨taken, all, unread, lifts⟩ := Grammar.keepsDepth_expression d ls t rest read
    refine ⟨taken, all, List.forall_mem_cons.2 ⟨.inl ?_, fun own mem => .inr (unread own mem)⟩⟩
    exact isSelfContained_iff.2 (lifts 0)

/-- Behind a word of this form, a dialect takes lexemes unread. -/
def hidesLexemes (d : Dialect) (key : String) : Bool :=
  key == "TABLE" || d = .postgres && key == "OPERATOR" || (d = .postgres || d = .duckdb) && key == "FILTER"

/-- No lexemes are taken unread without a word for it. -/
theorem TakenUnread.exists_word {d : Dialect} {own : List Lexeme} (unread : TakenUnread d own) :
    ∃ l ∈ own, hidesLexemes d l.key = true := by
  cases unread with
  | table value quote is_table => exact ⟨_, List.mem_cons_self, by simp [hidesLexemes, is_table]⟩
  | operator first others dialect is_operator =>
    exact ⟨_, List.mem_cons_self, by simp [hidesLexemes, is_operator, dialect]⟩
  | filter dialect is_filter => exact ⟨_, List.mem_cons_self, by simp [hidesLexemes, is_filter, dialect]⟩

end Filter

end Joinery
