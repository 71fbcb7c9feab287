import Joinery.Proofs.Filter.Depth
import Joinery.Filter.Grammar.Nesting

/-!
# Conditions as they are usually written

Conditions on columns and literals, in parentheses or not, joined by AND and OR: a `Disjunction` of `Conjunction`s of
`Term`s. Each has lexemes, and a tree in which AND binds more tightly than OR and chains lean to the left. The grammar
reads that tree from these lexemes, whatever the nesting, as long as it is not too deep (`Term.readsFront`).
`ReadsFront` says so of a front of the lexemes: an operand is one (`Operand.readsFront`), and an operator with what
stands to its right belongs to the front (`ReadsFront.step`).
-/

namespace Joinery.Filter

open Grammar

/-! ## Syntax -/

/-- Words with which the name of a type begins. -/
def typeWords : List String :=
  bareTypes ++ sizedTypes ++ integerTypes ++ decimalTypes ++
    ["DOUBLE", "BIT", "CHARACTER", "CHAR", "VARCHAR", "NVARCHAR", "TIMESTAMP", "TIME", "DATETIME64", "FIXEDSTRING",
     "INTERVAL", "ENUM", "ENUM8", "ENUM16", "SET", "ARRAY", "STRUCT", "UNION"]

/-- Words with which a form begins that is no name. -/
def formWords : List String :=
  ["NULL", "TRUE", "FALSE", "CURRENT_CATALOG", "CURRENT_USER", "SESSION_USER", "USER", "CURRENT_TIMESTAMP",
   "CURRENT_TIME", "CURRENT_DATE", "LOCALTIME", "LOCALTIMESTAMP", "CASE", "CONVERT", "TRY_CONVERT", "CAST", "TRY_CAST",
   "SAFE_CAST", "EXISTS", "EXTRACT", "CEIL", "FLOOR", "POSITION", "SUBSTRING", "OVERLAY", "TRIM", "INTERVAL", "ARRAY",
   "NOT", "MATCH", "MAP"]

/-- A word that means something else than a name in none of the places where a condition has an operand. -/
structure IsPlain (l : Lexeme) : Prop where
  no_type : l.key ∉ typeWords
  no_form : l.key ∉ formWords
  no_query : l.key ∉ ["SELECT", "WITH"]
  no_quantifier : l.key ∉ ["ANY", "ALL", "SOME"]

/-- A name as it is written, with its opening delimiter if it has delimiters. -/
structure Word where
  value : String
  quote : Option Char

namespace Word

def lexeme (w : Word) : Lexeme :=
  .word w.value w.quote

def name (w : Word) : Name :=
  ⟨w.value, w.quote.isSome⟩

end Word

/-- A reserved word, however it is spelled. -/
structure Keyword (key : String) where
  lexeme : Lexeme
  spelled : lexeme.key = key

inductive Literal
  | number (digits : String) (long : Bool)
  | text (value : String)

def Literal.lexeme : Literal → Lexeme
  | number digits long => .number digits long
  | text value => .text .single value

/-- Literals with commas between them. -/
def literalList (first : Literal) (more : List Literal) : List Lexeme :=
  first.lexeme :: more.flatMap fun l => [.symbol ",", l.lexeme]

/-- A column with its table, or a literal. -/
inductive Operand
  | column (table : Word) (plain : IsPlain table.lexeme) (name : Word)
  | literal (value : Literal)

namespace Operand

def lexemes : Operand → List Lexeme
  | column table _ name => [table.lexeme, .symbol ".", name.lexeme]
  | literal value => [value.lexeme]

def tree : Operand → Tree
  | column table _ name => .reference [table.name, name.name]
  | literal value => .literal value.lexeme

end Operand

mutual

/-- A condition on operands, or a condition in parentheses. -/
inductive Term
  | comparison (left : Operand) (mark : String) (compares : mark ∈ comparisons) (right : Operand)
  | null (left : Operand) (is : Keyword "IS") (negation : Option (Keyword "NOT")) (word : Keyword "NULL")
  | among (left : Operand) (word : Keyword "IN") (first : Literal) (more : List Literal)
  | between (left : Operand) (word : Keyword "BETWEEN") (low : Operand) (joint : Keyword "AND") (high : Operand)
  | like (left : Operand) (word : Keyword "LIKE") (pattern : Operand)
  | group (inside : Disjunction)

/-- Terms joined by AND. -/
inductive Conjunction
  | one (t : Term)
  | more (front : Conjunction) (joint : Keyword "AND") (last : Term)

/-- Conjunctions joined by OR. -/
inductive Disjunction
  | one (c : Conjunction)
  | more (front : Disjunction) (joint : Keyword "OR") (last : Conjunction)

end

mutual

def Term.lexemes : Term → List Lexeme
  | .comparison left mark _ right => left.lexemes ++ .symbol mark :: right.lexemes
  | .null left is negation word => left.lexemes ++ is.lexeme :: (negation.map (·.lexeme)).toList ++ [word.lexeme]
  | .among left word first more =>
    left.lexemes ++ word.lexeme :: .symbol "(" :: literalList first more ++ [.symbol ")"]
  | .between left word low joint high =>
    left.lexemes ++ word.lexeme :: low.lexemes ++ joint.lexeme :: high.lexemes
  | .like left word pattern => left.lexemes ++ word.lexeme :: pattern.lexemes
  | .group inside => .symbol "(" :: inside.lexemes ++ [.symbol ")"]

def Conjunction.lexemes : Conjunction → List Lexeme
  | .one t => t.lexemes
  | .more front joint last => front.lexemes ++ joint.lexeme :: last.lexemes

def Disjunction.lexemes : Disjunction → List Lexeme
  | .one c => c.lexemes
  | .more front joint last => front.lexemes ++ joint.lexeme :: last.lexemes

end

mutual

def Term.tree : Term → Tree
  | .comparison left mark _ right => .form mark [left.tree, right.tree]
  | .null left _ negation _ => .form (if negation.isSome then "IS NOT NULL" else "IS NULL") [left.tree]
  | .among left _ first more => .form "IN" (left.tree :: (first :: more).map fun l => .literal l.lexeme)
  | .between left _ low _ high => .form "BETWEEN" [left.tree, low.tree, high.tree]
  | .like left _ pattern => .form "LIKE" [left.tree, pattern.tree]
  | .group inside => .form "()" [inside.tree]

def Conjunction.tree : Conjunction → Tree
  | .one t => t.tree
  | .more front _ last => .form "AND" [front.tree, last.tree]

def Disjunction.tree : Disjunction → Tree
  | .one c => c.tree
  | .more front _ last => .form "OR" [front.tree, last.tree]

end

mutual

/-- How many levels of the grammar lie below a term. What stands to the right of an operator is one level deeper. -/
def Term.depth : Term → Nat
  | .group inside => inside.depth + 1
  | _ => 1

def Conjunction.depth : Conjunction → Nat
  | .one t => t.depth
  | .more front _ last => max front.depth (last.depth + 1)

def Disjunction.depth : Disjunction → Nat
  | .one c => c.depth
  | .more front _ last => max front.depth (last.depth + 1)

end

/-! ## Rules that find what they look for, and rules that do not -/

namespace Grammar

variable {α β : Type} {ls rest : List Lexeme}

theorem bind_of_ok {rule : Read α} {next : α → Read β} {a : α} (read : rule ls = .ok (a, rest)) :
    (rule >>= next) ls = next a rest := by
  change (rule ls >>= fun (a, rest) => next a rest) = _
  rw [read]
  rfl

theorem attempt_of_unexpected {rule : Read α} (refused : rule ls = .error .unexpected) :
    attempt rule ls = .ok (none, ls) := by
  rw [attempt, refused]

/-- What a rule asks for does not come next. -/
theorem takeIf_of_not {test : Lexeme → Bool} (other : ∀ l ∈ ls.head?, test l = false) :
    takeIf test ls = .ok (false, ls) := by
  cases ls with
  | nil => rfl
  | cons l ls =>
    change (if test l = true then _ else _ : Read Bool) (l :: ls) = _
    rw [other l rfl]
    rfl

theorem symbol?_of_ne {mark : String} (other : ∀ l ∈ ls.head?, l ≠ .symbol mark) :
    symbol? mark ls = .ok (false, ls) :=
  takeIf_of_not fun l mem => decide_eq_false (other l mem)

theorem word?_of_ne {key : String} (other : ∀ l ∈ ls.head?, l.key ≠ key) : word? key ls = .ok (false, ls) :=
  takeIf_of_not fun l mem => beq_eq_false_iff_ne.2 (other l mem)

theorem symbol?_cons (mark : String) (ls : List Lexeme) :
    symbol? mark (.symbol mark :: ls) = .ok (true, ls) := by
  have passes : (Lexeme.symbol mark).isSymbol mark = true := decide_eq_true rfl
  change (if (Lexeme.symbol mark).isSymbol mark = true then _ else _ : Read Bool) (.symbol mark :: ls) = _
  rw [if_pos passes]
  rfl

theorem symbol_cons (mark : String) (ls : List Lexeme) : symbol mark (.symbol mark :: ls) = .ok ((), ls) := by
  rw [symbol, require, bind_of_ok (symbol?_cons mark ls)]
  rfl

theorem repeated_of_not {met : Read Bool} {rule : Read α} (other : met ls = .ok (false, ls)) :
    repeated met rule ls = .ok ([], ls) := by
  rw [repeated, withBound, repeatWithin, bind_of_ok other]
  rfl

theorem oneOf?_of_not_mem {keys : List String} {l : Lexeme} (other : l.key ∉ keys) :
    oneOf? keys (l :: ls) = .ok (none, l :: ls) := by
  change (if keys.contains l.key = true then _ else _ : Read (Option String)) (l :: ls) = _
  rw [if_neg (by simpa using other)]
  rfl

theorem oneOf?_of_mem {keys : List String} {l : Lexeme} (mem : l.key ∈ keys) :
    oneOf? keys (l :: ls) = .ok (some l.key, ls) := by
  change (if keys.contains l.key = true then _ else _ : Read (Option String)) (l :: ls) = _
  rw [if_pos (by simpa using mem)]
  rfl

theorem word?_cons {key : String} (k : Keyword key) (ls : List Lexeme) :
    word? key (k.lexeme :: ls) = .ok (true, ls) := by
  have passes : (k.lexeme.key == key) = true := beq_iff_eq.2 k.spelled
  change (if (k.lexeme.key == key) = true then _ else _ : Read Bool) (k.lexeme :: ls) = _
  rw [if_pos passes]
  rfl

theorem word?_of_keyword {key other : String} (k : Keyword key) (ne : key ≠ other) (ls : List Lexeme) :
    word? other (k.lexeme :: ls) = .ok (false, k.lexeme :: ls) := by
  refine word?_of_ne ?_
  rintro l ⟨⟩
  rw [k.spelled]
  exact ne

theorem word_cons {key : String} (k : Keyword key) (ls : List Lexeme) : word key (k.lexeme :: ls) = .ok ((), ls) := by
  rw [word, require, bind_of_ok (word?_cons k ls)]
  rfl

theorem words?_of_eq {keys : List String} (same : (ls.take keys.length).map Lexeme.key = keys) :
    words? keys ls = .ok (true, ls.drop keys.length) := by
  change (if (ls.take keys.length).map Lexeme.key = keys then _ else _ : Read Bool) ls = _
  rw [if_pos same]
  rfl

theorem words?_of_ne {keys : List String} (other : (ls.take keys.length).map Lexeme.key ≠ keys) :
    words? keys ls = .ok (false, ls) := by
  change (if (ls.take keys.length).map Lexeme.key = keys then _ else _ : Read Bool) ls = _
  rw [if_neg other]
  rfl

theorem peekKey_cons {key : String} (k : Keyword key) (ls : List Lexeme) :
    peekKey (k.lexeme :: ls) = .ok (key, k.lexeme :: ls) :=
  congrArg (fun key => Except.ok (key, k.lexeme :: ls)) k.spelled

end Grammar

/-! ## Operands -/

/-- The operators here that are words. -/
def wordOperators : List String :=
  ["IS", "IN", "BETWEEN", "LIKE"]

/-- What can follow an operand here: an operator, another operand, another condition, the end of the parentheses, or
nothing. -/
def Follows (rest : List Lexeme) : Prop :=
  ∀ l ∈ rest.head?, (∃ mark ∈ ")" :: "," :: comparisons, l = .symbol mark) ∨
    l.key ∈ "AND" :: "OR" :: wordOperators

variable {rest : List Lexeme}

theorem Follows.symbol {mark : String} (mem : mark ∈ ")" :: "," :: comparisons) (ls : List Lexeme) :
    Follows (.symbol mark :: ls) := by
  rintro l ⟨⟩
  exact .inl ⟨mark, mem, rfl⟩

theorem Follows.keyword {key : String} (k : Keyword key) (mem : key ∈ "AND" :: "OR" :: wordOperators)
    (ls : List Lexeme) : Follows (k.lexeme :: ls) := by
  rintro l ⟨⟩
  right
  rw [k.spelled]
  exact mem

theorem Follows.ne_symbol (follows : Follows rest) {mark : String} (other : mark ∉ ")" :: "," :: comparisons) :
    ∀ l ∈ rest.head?, l ≠ .symbol mark := by
  rintro l mem rfl
  rcases follows _ mem with ⟨mark', listed, eq⟩ | key
  · exact other (Lexeme.symbol.inj eq ▸ listed)
  · exact absurd key (by decide : "" ∉ "AND" :: "OR" :: wordOperators)

theorem Follows.key_ne (follows : Follows rest) {key : String}
    (other : key ∉ "" :: "AND" :: "OR" :: wordOperators) : ∀ l ∈ rest.head?, l.key ≠ key := by
  rintro l mem rfl
  rcases follows _ mem with ⟨mark', -, rfl⟩ | listed
  · exact other List.mem_cons_self
  · exact other (List.mem_cons_of_mem _ listed)

namespace Grammar

variable {d : Dialect}

theorem suffixed_of_follows (follows : Follows rest) (inner : Inner) (t : Tree) :
    suffixed d inner t rest = .ok (t, rest) := by
  have no_methods : methods d inner t rest = .ok (t, rest) := by
    unfold methods
    split_ifs
    · refine (bind_of_ok (attempt_of_unexpected ?_)).trans rfl
      exact (bind_of_ok (repeated_of_not (symbol?_of_ne (Follows.ne_symbol follows (by decide))))).trans rfl
    · rfl
  rw [suffixed, bind_of_ok no_methods, bind_of_ok (word?_of_ne (Follows.key_ne follows (by decide)))]
  rfl

/-- Neither a number nor a text, nor what stands in parentheses, begins with a type. -/
theorem typedLiteral_refuses (inner : Inner) {l : Lexeme} (no_word : ∀ value quote, l ≠ .word value quote) :
    typedLiteral d inner (l :: rest) = .error .unexpected := by
  cases l with
  | word value quote => exact absurd rfl (no_word value quote)
  | _ => rfl

theorem typeBase_of_no_type {value : String} {quote : Option Char}
    (no_type : (Lexeme.word value quote).key ∉ typeWords) (inner : Read TypeRead) :
    typeBase d inner (.word value quote :: rest) = typeBase.own rest := by
  have key_read : peekKey (.word value quote :: rest) =
      .ok ((Lexeme.word value quote).key, .word value quote :: rest) := rfl
  have word_read : next (.word value quote :: rest) = .ok (some (.word value quote), rest) := rfl
  rw [typeBase, bind_of_ok key_read, bind_of_ok word_read]
  generalize (Lexeme.word value quote).key = key at no_type ⊢
  simp only [typeWords, List.mem_append, not_or] at no_type
  obtain ⟨⟨⟨⟨not_bare, not_sized⟩, not_integer⟩, not_decimal⟩, no_word⟩ := no_type
  dsimp only
  rw [if_neg (by simpa using not_bare), if_neg (by simpa using not_sized), if_neg (by simpa using not_integer),
    if_neg (by simpa using not_decimal)]
  split <;> first | rfl | exact absurd (by decide) no_word

/-- A column is no literal with a type in front: its table would be a type of the user's own. -/
theorem typedLiteral_refuses_column (inner : Inner) {table : Word} (plain : IsPlain table.lexeme) (name : Word)
    (follows : Follows rest) :
    typedLiteral d inner (table.lexeme :: .symbol "." :: name.lexeme :: rest) = .error .unexpected := by
  have no_point := symbol?_of_ne (Follows.ne_symbol follows (by decide : "." ∉ ")" :: "," :: comparisons))
  have no_argument := symbol?_of_ne (Follows.ne_symbol follows (by decide : "(" ∉ ")" :: "," :: comparisons))
  have no_bracket := symbol?_of_ne (Follows.ne_symbol follows (by decide : "[" ∉ ")" :: "," :: comparisons))
  have names : repeated (symbol? ".") Grammar.name (.symbol "." :: name.lexeme :: rest) = .ok ([name.name], rest) := by
    have one : Grammar.name (name.lexeme :: rest) = .ok (name.name, rest) := rfl
    have none_left (bound : Nat) : repeatWithin (symbol? ".") Grammar.name bound rest = .ok ([], rest) := by
      cases bound with
      | zero => rfl
      | succ bound =>
        rw [repeatWithin, bind_of_ok no_point]
        rfl
    rw [repeated, withBound, repeatWithin, bind_of_ok (symbol?_cons _ _), if_pos rfl, bind_of_ok one,
      bind_of_ok (none_left _)]
    rfl
  have own : typeBase.own (.symbol "." :: name.lexeme :: rest) = .ok ({ kind := .own }, rest) := by
    have no_arguments : whenever (symbol? "(") (withBound ownArguments) rest = .ok (none, rest) := by
      rw [whenever, bind_of_ok no_argument]
      rfl
    rw [typeBase.own, bind_of_ok names, bind_of_ok no_arguments]
    rfl
  have type_read : typeName d (table.lexeme :: .symbol "." :: name.lexeme :: rest) = .ok (.own, rest) := by
    have base (type : Read TypeRead) :
        typeBase d type (table.lexeme :: .symbol "." :: name.lexeme :: rest) = .ok ({ kind := .own }, rest) :=
      (typeBase_of_no_type plain.no_type type).trans own
    have type : withBound (typeWithin d) (table.lexeme :: .symbol "." :: name.lexeme :: rest) =
        .ok ({ kind := .own }, rest) := by
      rw [withBound, typeWithin, bind_of_ok (base _), bind_of_ok (repeated_of_not no_bracket)]
      rfl
    rw [typeName, bind_of_ok type]
    rfl
  rw [typedLiteral, bind_of_ok type_read]
  rfl

theorem wordForm?_of_no_form {l : Lexeme} (no_form : l.key ∉ formWords) (inner : Inner) (function : Name)
    (next : Option Lexeme) : wordForm? d inner l function next = none := by
  unfold wordForm?
  generalize l.key = key at no_form
  split <;> first | rfl | exact absurd (by decide) no_form

theorem named_column (inner : Inner) (table name : Word) (follows : Follows rest) :
    named d inner table.name (.symbol "." :: name.lexeme :: rest) = .ok (.reference [table.name, name.name], rest) := by
  have no_point := symbol?_of_ne (Follows.ne_symbol follows (by decide : "." ∉ ")" :: "," :: comparisons))
  have not_called : rest.head? ≠ some (.symbol "(") := fun eq =>
    Follows.ne_symbol follows (by decide) _ eq rfl
  have names_end (bound : Nat) : moreNames d (bound + 1) rest = .ok (([], false), rest) := by
    rw [moreNames, bind_of_ok no_point]
    rfl
  have names : withBound (moreNames d) (.symbol "." :: name.lexeme :: rest) = .ok (([name.name], false), rest) := by
    have word_read : next (name.lexeme :: rest) = .ok (some (.word name.value name.quote), rest) := rfl
    rw [withBound, moreNames, bind_of_ok (symbol?_cons _ _), if_pos rfl, bind_of_ok word_read]
    exact (bind_of_ok (names_end _)).trans rfl
  have point : peek (.symbol "." :: name.lexeme :: rest) =
      .ok (some (.symbol "."), .symbol "." :: name.lexeme :: rest) := rfl
  have peeked : peek rest = .ok (rest.head?, rest) := by
    cases rest <;> rfl
  rw [named, bind_of_ok point]
  change (withBound (moreNames d) >>= _) _ = _
  rw [bind_of_ok names]
  dsimp only
  rw [if_neg (by decide), bind_of_ok peeked, if_neg not_called]
  rfl

/-- An operand is read up to what follows it. -/
theorem operandStep_operand (inner : Inner) (o : Operand) (follows : Follows rest) :
    operandStep d inner (o.lexemes ++ rest) = .ok (o.tree, rest) := by
  cases o with
  | literal value =>
    cases value with
    | number digits long =>
      have refused : typedLiteral d inner (.number digits long :: rest) = .error .unexpected :=
        typedLiteral_refuses inner nofun
      exact (bind_of_ok (attempt_of_unexpected refused)).trans (suffixed_of_follows follows inner _)
    | text value =>
      have refused : typedLiteral d inner (.text .single value :: rest) = .error .unexpected :=
        typedLiteral_refuses inner nofun
      exact (bind_of_ok (attempt_of_unexpected refused)).trans (suffixed_of_follows follows inner _)
  | column table plain name =>
    have refused := typedLiteral_refuses_column (d := d) inner plain name follows
    refine (bind_of_ok (attempt_of_unexpected refused)).trans ?_
    change wordOperand d inner table.lexeme table.name (.symbol "." :: name.lexeme :: rest) = _
    have point : peek (.symbol "." :: name.lexeme :: rest) =
        .ok (some (.symbol "."), .symbol "." :: name.lexeme :: rest) := rfl
    rw [wordOperand, bind_of_ok point, wordForm?_of_no_form plain.no_form]
    exact (bind_of_ok (named_column inner table name follows)).trans (suffixed_of_follows follows inner _)

/-- Lexemes that neither make a statement of the parentheses they stand in nor several comparisons of the operator they
stand behind. -/
def StartsPlain (ls : List Lexeme) : Prop :=
  ∃ l rest, ls = l :: rest ∧ l.key ∉ ["SELECT", "WITH"] ∧ l.key ∉ ["ANY", "ALL", "SOME"]

theorem StartsPlain.append {ls : List Lexeme} (plain : StartsPlain ls) (rest : List Lexeme) :
    StartsPlain (ls ++ rest) := by
  obtain ⟨l, ls, rfl, key⟩ := plain
  exact ⟨l, ls ++ rest, rfl, key⟩

theorem comma?_closing (rest : List Lexeme) : comma? d (.symbol ")" :: rest) = .ok (false, .symbol ")" :: rest) := by
  rw [comma?, bind_of_ok (symbol?_of_ne (by simp))]
  rfl

/-- A condition in parentheses is read as what stands in them. -/
theorem operandStep_group (inner : Inner) {inside : List Lexeme} {t : Tree} (plain : StartsPlain inside)
    (read : inner.expr (inside ++ .symbol ")" :: rest) = .ok (t, .symbol ")" :: rest)) (follows : Follows rest) :
    operandStep d inner (.symbol "(" :: inside ++ .symbol ")" :: rest) = .ok (.form "()" [t], rest) := by
  have refused : typedLiteral d inner (.symbol "(" :: (inside ++ .symbol ")" :: rest)) = .error .unexpected :=
    typedLiteral_refuses inner nofun
  have one : items d inner.expr (inside ++ .symbol ")" :: rest) = .ok ([t], .symbol ")" :: rest) := by
    rw [items, withBound, itemsWithin, bind_of_ok read, bind_of_ok (comma?_closing rest)]
    rfl
  have in_parens : parenthesized d inner (inside ++ .symbol ")" :: rest) = .ok (.form "()" [t], rest) := by
    have no_point := symbol?_of_ne (Follows.ne_symbol follows (by decide : "." ∉ ")" :: "," :: comparisons))
    obtain ⟨l, ls, rfl, not_query, -⟩ := plain
    have key_read : peekKey (l :: ls ++ .symbol ")" :: rest) = .ok (l.key, l :: ls ++ .symbol ")" :: rest) := rfl
    rw [parenthesized, bind_of_ok key_read, if_neg (by simpa using not_query), bind_of_ok one]
    rw [pure_bind]
    dsimp only
    rw [bind_of_ok (symbol_cons _ _), bind_of_ok no_point]
    rfl
  refine (bind_of_ok (attempt_of_unexpected refused)).trans ?_
  change (symbolOperand d inner "(" >>= suffixed d inner) (inside ++ .symbol ")" :: rest) = _
  exact (bind_of_ok in_parens).trans (suffixed_of_follows follows inner _)

end Grammar

/-! ## Chains of operators -/

/-- Behind these lexemes a condition ends, or another one follows. -/
def Ends (rest : List Lexeme) : Prop :=
  ∀ l ∈ rest.head?, l = .symbol ")" ∨ l.key = "AND" ∨ l.key = "OR"

theorem Ends.keyword {key : String} (k : Keyword key) (joins : key = "AND" ∨ key = "OR") (ls : List Lexeme) :
    Ends (k.lexeme :: ls) := by
  rintro l ⟨⟩
  rw [k.spelled]
  exact .inr joins

theorem Ends.follows (ends : Ends rest) : Follows rest := by
  intro l mem
  rcases ends l mem with closing | is_and | is_or
  · exact .inl ⟨")", List.mem_cons_self, closing⟩
  · exact .inr (is_and ▸ List.mem_cons_self)
  · exact .inr (is_or ▸ List.mem_cons_of_mem _ List.mem_cons_self)

namespace Grammar

variable {d : Dialect} {inner : Inner}

theorem eq_word_of_key {l : Lexeme} (ne : l.key ≠ "") : ∃ value, l = .word value none := by
  cases l with
  | word value quote => cases quote with
    | none => exact ⟨value, rfl⟩
    | some q => exact absurd rfl ne
  | _ => exact absurd rfl ne

theorem precedenceAt_word {l : Lexeme} (ne : l.key ≠ "") (rest : List Lexeme) : precedenceAt d (l :: rest) =
    wordPrecedence (precedence d) l.key ((rest.head?.map Lexeme.key).getD "")
      (((rest.drop 1).head?.map Lexeme.key).getD "") := by
  obtain ⟨value, rfl⟩ := eq_word_of_key ne
  rfl

theorem precedenceAt_and {l : Lexeme} (is_and : l.key = "AND") (rest : List Lexeme) :
    precedenceAt d (l :: rest) = (precedence d).conjunction := by
  rw [precedenceAt_word (by rw [is_and]; decide), is_and]
  rfl

theorem precedenceAt_or {l : Lexeme} (is_or : l.key = "OR") (rest : List Lexeme) :
    precedenceAt d (l :: rest) = (precedence d).disjunction := by
  rw [precedenceAt_word (by rw [is_or]; decide), is_or]
  rfl

theorem disjunction_lt_conjunction (d : Dialect) : (precedence d).disjunction < (precedence d).conjunction := by
  cases d <;> decide

theorem disjunction_pos (d : Dialect) : 0 < (precedence d).disjunction := by
  cases d <;> decide

/-- All conditions on operands bind more tightly than what joins them. -/
theorem conjunction_lt (d : Dialect) : (precedence d).conjunction < (precedence d).comparison ∧
    (precedence d).conjunction < (precedence d).test ∧ (precedence d).conjunction < (precedence d).range ∧
    (precedence d).conjunction < (precedence d).pattern := by
  cases d <;> decide

theorem precedenceAt_le_of_ends (ends : Ends rest) : precedenceAt d rest ≤ (precedence d).conjunction := by
  cases rest with
  | nil => exact Nat.zero_le _
  | cons l rest =>
    rcases ends l rfl with rfl | is_and | is_or
    · exact Nat.zero_le _
    · exact Nat.le_of_eq (precedenceAt_and is_and rest)
    · rw [precedenceAt_or is_or]
      exact Nat.le_of_lt (disjunction_lt_conjunction d)

/-- No operator is read that binds no more tightly. -/
theorem operatorsAbove_of_le {p : Nat} (loose : precedenceAt d rest ≤ p) (left : Tree) (bound : Nat) :
    operatorsAbove d inner p left bound rest = .ok (left, rest) := by
  cases bound with
  | zero => rfl
  | succ bound =>
    change (if p < precedenceAt d rest then _ else _ : Read Tree) rest = _
    rw [if_neg (Nat.not_lt.2 loose)]
    rfl

/-- An operator with what stands to its right is read before all further operators. -/
theorem operatorsAbove_succ {p : Nat} {ls : List Lexeme} {left t : Tree} (tight : p < precedenceAt d ls)
    (read : infixOperator d inner (precedenceAt d ls) left ls = .ok (t, rest)) (bound : Nat) :
    operatorsAbove d inner p left (bound + 1) ls = operatorsAbove d inner p t bound rest := by
  change (if p < precedenceAt d ls then _ else _ : Read Tree) ls = _
  rw [if_pos tight]
  exact bind_of_ok read

/-- What stands to the right of an operator is compared as a whole, unless one of three words stands there. -/
theorem rightOf_of_ok {operator : String} {p : Nat} {ls : List Lexeme} {left right : Tree}
    (plain : StartsPlain ls) (read : inner.exprAbove p ls = .ok (right, rest)) :
    rightOf inner operator p left ls = .ok (.form operator [left, right], rest) := by
  obtain ⟨l, ls', rfl, -, not_any⟩ := plain
  rw [rightOf, bind_of_ok (oneOf?_of_not_mem not_any)]
  exact (bind_of_ok read).trans rfl

theorem infixOperator_of_binary {l : Lexeme} {ls : List Lexeme} {operator : String} {p : Nat} {left : Tree}
    (not_div : l.key ≠ "DIV") (read : binary? d (l :: ls) = .ok (some operator, ls)) :
    infixOperator d inner p left (l :: ls) = rightOf inner operator p left ls := by
  have key_read : peekKey (l :: ls) = .ok (l.key, l :: ls) := rfl
  rw [infixOperator, bind_of_ok key_read]
  generalize l.key = key at not_div
  split
  · exact absurd rfl not_div
  · exact bind_of_ok read

theorem binary?_comparison {mark : String} (compares : mark ∈ comparisons) (ls : List Lexeme) :
    binary? d (.symbol mark :: ls) = .ok (some mark, ls) := by
  simp only [comparisons, List.mem_cons, List.not_mem_nil, or_false] at compares
  rcases compares with rfl | rfl | rfl | rfl | rfl | rfl <;> rfl

theorem precedenceAt_comparison {mark : String} (compares : mark ∈ comparisons) (ls : List Lexeme) :
    precedenceAt d (.symbol mark :: ls) = (precedence d).comparison := by
  simp only [comparisons, List.mem_cons, List.not_mem_nil, or_false] at compares
  rcases compares with rfl | rfl | rfl | rfl | rfl | rfl <;> rfl

theorem binary?_word {l : Lexeme} (joins : l.key = "AND" ∨ l.key = "OR") (ls : List Lexeme) :
    binary? d (l :: ls) = .ok (some l.key, ls) := by
  obtain ⟨value, rfl⟩ := eq_word_of_key (l := l) (by rcases joins with eq | eq <;> rw [eq] <;> decide)
  have word_read : peek (.word value none :: ls) = .ok (some (.word value none), .word value none :: ls) := rfl
  rw [binary?, bind_of_ok word_read]
  exact bind_of_ok (oneOf?_of_mem (by rcases joins with eq | eq <;> rw [eq] <;> decide))

end Grammar

/-! ## Operators that are words -/

namespace Grammar

variable {d : Dialect} {inner : Inner}

theorem ne_of_wordOperator {key : String} (mem : key ∈ wordOperators) :
    key ∉ ["AND", "OR", "XOR"] ∧ key ≠ "OPERATOR" ∧ key ≠ "DIV" ∧ key ≠ "" := by
  revert key
  decide

section WordOperator

variable {key : String} (k : Keyword key) (mem : key ∈ wordOperators) (left : Tree)

include mem

theorem binary?_of_keyword (ls : List Lexeme) : binary? d (k.lexeme :: ls) = .ok (none, k.lexeme :: ls) := by
  obtain ⟨not_joining, not_operator, -, some_key⟩ := ne_of_wordOperator mem
  obtain ⟨value, is_word⟩ := eq_word_of_key (by rw [k.spelled]; exact some_key)
  have word_read : peek (k.lexeme :: ls) = .ok (some (.word value none), k.lexeme :: ls) := by
    rw [← is_word]
    rfl
  have joining : oneOf? ["AND", "OR", "XOR"] (k.lexeme :: ls) = .ok (none, k.lexeme :: ls) :=
    oneOf?_of_not_mem (by rw [k.spelled]; exact not_joining)
  rw [binary?, bind_of_ok word_read]
  dsimp only
  rw [bind_of_ok joining]
  dsimp only
  split_ifs
  · rw [bind_of_ok (word?_of_keyword k not_operator ls)]
    rfl
  · rfl

/-- An operator that is a word is looked for where there is no other operator. -/
theorem infixOperator_of_keyword (p : Nat) (ls : List Lexeme) :
    infixOperator d inner p left (k.lexeme :: ls) = wordOperator d inner p left (k.lexeme :: ls) := by
  have no_symbol (mark : String) : symbol? mark (k.lexeme :: ls) = .ok (false, k.lexeme :: ls) := by
    refine symbol?_of_ne ?_
    rintro l ⟨⟩ is_symbol
    have spelled := k.spelled
    rw [is_symbol] at spelled
    exact (ne_of_wordOperator mem).2.2.2 spelled.symm
  rw [infixOperator, bind_of_ok (peekKey_cons k ls)]
  split
  · exact absurd rfl (ne_of_wordOperator mem).2.2.1
  · rw [bind_of_ok (binary?_of_keyword k mem ls)]
    dsimp only
    rw [bind_of_ok (no_symbol "::"), if_neg (by decide), bind_of_ok (no_symbol "!"), if_neg (by decide),
      bind_of_ok (no_symbol "["), if_neg (by decide)]

end WordOperator

theorem precedenceAt_keyword {key : String} (k : Keyword key) (some_key : key ≠ "") (ls : List Lexeme) :
    precedenceAt d (k.lexeme :: ls) = wordPrecedence (precedence d) key ((ls.head?.map Lexeme.key).getD "")
      (((ls.drop 1).head?.map Lexeme.key).getD "") := by
  rw [precedenceAt_word (by rw [k.spelled]; exact some_key), k.spelled]

variable (left : Tree)

theorem wordOperator_null (is : Keyword "IS") (negation : Option (Keyword "NOT")) (null : Keyword "NULL") (p : Nat)
    (rest : List Lexeme) :
    wordOperator d inner p left (is.lexeme :: (negation.map (·.lexeme)).toList ++ [null.lexeme] ++ rest) =
      .ok (.form (if negation.isSome then "IS NOT NULL" else "IS NULL") [left], rest) := by
  rw [List.append_assoc, List.cons_append, wordOperator, bind_of_ok (peekKey_cons is _)]
  change (word "IS" >>= fun _ => test inner left) _ = _
  rw [bind_of_ok (word_cons is _), test]
  cases negation with
  | none =>
    have here : words? ["NULL"] (null.lexeme :: rest) = .ok (true, rest) := words?_of_eq (by simp [null.spelled])
    exact (bind_of_ok here).trans rfl
  | some negation =>
    have not_here : words? ["NULL"] (negation.lexeme :: null.lexeme :: rest) =
        .ok (false, negation.lexeme :: null.lexeme :: rest) := words?_of_ne (by simp [negation.spelled])
    have here : words? ["NOT", "NULL"] (negation.lexeme :: null.lexeme :: rest) = .ok (true, rest) :=
      words?_of_eq (by simp [negation.spelled, null.spelled])
    exact (bind_of_ok not_here).trans ((bind_of_ok here).trans rfl)

theorem wordOperator_in (k : Keyword "IN") (p : Nat) (ls : List Lexeme) :
    wordOperator d inner p left (k.lexeme :: ls) = membership d inner left ls := by
  rw [wordOperator, bind_of_ok (peekKey_cons k ls)]
  change negatable d inner left (k.lexeme :: ls) = _
  rw [negatable, bind_of_ok (word?_of_keyword k (by decide) ls), bind_of_ok (peekKey_cons k ls),
    if_neg (by decide), bind_of_ok (word?_cons k ls), if_pos rfl]

theorem wordOperator_between (k : Keyword "BETWEEN") (p : Nat) (ls : List Lexeme) :
    wordOperator d inner p left (k.lexeme :: ls) = between d inner left ls := by
  rw [wordOperator, bind_of_ok (peekKey_cons k ls)]
  change negatable d inner left (k.lexeme :: ls) = _
  rw [negatable, bind_of_ok (word?_of_keyword k (by decide) ls), bind_of_ok (peekKey_cons k ls),
    if_neg (by decide), bind_of_ok (word?_of_keyword k (by decide) ls), if_neg (by decide),
    bind_of_ok (word?_cons k ls), if_pos rfl]

theorem wordOperator_like (k : Keyword "LIKE") (p : Nat) {ls : List Lexeme} (plain : StartsPlain ls) :
    wordOperator d inner p left (k.lexeme :: ls) = pattern d inner "LIKE" left ls := by
  have like : oneOf? ["LIKE", "ILIKE"] (k.lexeme :: ls) = .ok (some k.lexeme.key, ls) :=
    oneOf?_of_mem (by rw [k.spelled]; decide)
  have not_any : word? "ANY" ls = .ok (false, ls) := by
    obtain ⟨l, ls, rfl, -, not_any⟩ := plain
    refine word?_of_ne ?_
    rintro l ⟨⟩ is_any
    exact not_any (is_any ▸ List.mem_cons_self)
  rw [wordOperator, bind_of_ok (peekKey_cons k ls)]
  change negatable d inner left (k.lexeme :: ls) = _
  rw [negatable, bind_of_ok (word?_of_keyword k (by decide) ls), bind_of_ok (peekKey_cons k ls),
    if_neg (by decide), bind_of_ok (word?_of_keyword k (by decide) ls), if_neg (by decide),
    bind_of_ok (word?_of_keyword k (by decide) ls), if_neg (by decide), bind_of_ok like]
  exact (bind_of_ok not_any).trans rfl

end Grammar

/-! ## Reading conditions -/

theorem Literal.startsPlain (l : Literal) : StartsPlain [l.lexeme] := by
  have no_key : l.lexeme.key = "" := by cases l <;> rfl
  exact ⟨_, _, rfl, by rw [no_key]; decide, by rw [no_key]; decide⟩

theorem Operand.startsPlain (o : Operand) : StartsPlain o.lexemes := by
  cases o with
  | column table plain name => exact ⟨_, _, rfl, plain.no_query, plain.no_quantifier⟩
  | literal value => exact value.startsPlain

theorem Term.startsPlain (t : Term) : StartsPlain t.lexemes := by
  cases t with
  | group inside => exact ⟨_, _, rfl, by decide, by decide⟩
  | null left is negation word =>
    rw [lexemes, List.append_assoc]
    exact left.startsPlain.append _
  | among left word first more =>
    rw [lexemes, List.append_assoc]
    exact left.startsPlain.append _
  | between left word low joint high =>
    rw [lexemes, List.append_assoc]
    exact left.startsPlain.append _
  | comparison left _ _ _ | like left _ _ => exact left.startsPlain.append _

theorem Conjunction.startsPlain : ∀ c : Conjunction, StartsPlain c.lexemes
  | .one t => t.startsPlain
  | .more front _ _ => front.startsPlain.append _

theorem Disjunction.startsPlain : ∀ e : Disjunction, StartsPlain e.lexemes
  | .one c => c.startsPlain
  | .more front _ _ => front.startsPlain.append _

variable {d : Dialect}

/-- The grammar reads a front of some lexemes as an expression, and then goes on with the operators behind it. -/
def ReadsFront (d : Dialect) (n p : Nat) (ls : List Lexeme) (t : Tree) (rest : List Lexeme) : Prop :=
  ∃ bound, rest.length < bound ∧ exprOn d (Inner.above d (level d n)) p ls =
    operatorsAbove d (Inner.above d (level d n)) p t bound rest

/-- What is an operand is read as an expression up to the operators behind it. -/
theorem ReadsFront.of_operand {n p : Nat} {ls : List Lexeme} {t : Tree}
    (read : (Inner.above d (level d n)).operand ls = .ok (t, rest)) : ReadsFront d n p ls t rest := by
  refine ⟨rest.length + 1, Nat.lt_succ_self _, ?_⟩
  rw [exprOn, bind_of_ok read]
  rfl

theorem Operand.readsFront {n p : Nat} (o : Operand) (follows : Follows rest) :
    ReadsFront d n p (o.lexemes ++ rest) o.tree rest :=
  .of_operand (operandStep_operand _ o follows)

theorem ReadsFront.whole {n p : Nat} {ls : List Lexeme} {t : Tree} (front : ReadsFront d n p ls t rest)
    (loose : precedenceAt d rest ≤ p) : (level d (n + 1)).exprAbove p ls = .ok (t, rest) := by
  obtain ⟨bound, -, read⟩ := front
  exact read.trans (operatorsAbove_of_le loose t bound)

theorem Operand.exprAbove {n p : Nat} (o : Operand) (follows : Follows rest) (loose : precedenceAt d rest ≤ p) :
    (Inner.above d (level d (n + 1))).exprAbove p (o.lexemes ++ rest) = .ok (o.tree, rest) :=
  (o.readsFront follows).whole loose

/-- One more operator with what stands to its right belongs to the front. -/
theorem ReadsFront.step {n p : Nat} {ls ls' : List Lexeme} {left t : Tree} (front : ReadsFront d n p ls left ls')
    (shorter : rest.length < ls'.length) (tight : p < precedenceAt d ls')
    (read : infixOperator d (Inner.above d (level d n)) (precedenceAt d ls') left ls' = .ok (t, rest)) :
    ReadsFront d n p ls t rest := by
  obtain ⟨bound, enough, whole⟩ := front
  obtain ⟨bound, rfl⟩ := Nat.exists_eq_succ_of_ne_zero (Nat.ne_zero_of_lt enough)
  exact ⟨bound, by omega, whole.trans (operatorsAbove_succ tight read bound)⟩

/-- What stands to the right of an operator is read one level deeper, and then belongs to the front. -/
theorem ReadsFront.operator {n p q : Nat} {ls ls' : List Lexeme} {l : Lexeme} {operator : String} {left right : Tree}
    (front : ReadsFront d (n + 1) p ls left (l :: ls' ++ rest)) (tight : p < q)
    (binds : precedenceAt d (l :: ls' ++ rest) = q) (not_div : l.key ≠ "DIV")
    (is_binary : binary? d (l :: (ls' ++ rest)) = .ok (some operator, ls' ++ rest)) (plain : StartsPlain ls')
    (behind : ReadsFront d n q (ls' ++ rest) right rest) (loose : precedenceAt d rest ≤ q) :
    ReadsFront d (n + 1) p ls (.form operator [left, right]) rest := by
  have shorter : rest.length < (l :: ls' ++ rest).length := by
    rw [List.cons_append, List.length_cons, List.length_append]
    exact Nat.lt_succ_of_le (Nat.le_add_left _ _)
  refine front.step shorter (binds ▸ tight) ?_
  rw [binds]
  exact (infixOperator_of_binary not_div is_binary).trans (rightOf_of_ok (plain.append rest) (behind.whole loose))

theorem ReadsFront.comparison {n p : Nat} {left right : Operand} {mark : String} (compares : mark ∈ comparisons)
    (tight : p ≤ (precedence d).conjunction) (ends : Ends rest) :
    ReadsFront d (n + 1) p ((Term.comparison left mark compares right).lexemes ++ rest)
      (Term.comparison left mark compares right).tree rest := by
  have compared : Follows (.symbol mark :: right.lexemes ++ rest) :=
    .symbol (List.mem_cons_of_mem _ (List.mem_cons_of_mem _ compares)) _
  have not_div : (Lexeme.symbol mark).key ≠ "DIV" := (by decide : "" ≠ "DIV")
  have binds := (conjunction_lt d).1
  have loose : precedenceAt d rest ≤ (precedence d).comparison :=
    Nat.le_trans (precedenceAt_le_of_ends ends) (Nat.le_of_lt binds)
  have both := (left.readsFront (d := d) (n := n + 1) compared).operator (Nat.lt_of_le_of_lt tight binds)
    (precedenceAt_comparison compares _) not_div (binary?_comparison compares _) right.startsPlain
    (right.readsFront ends.follows) loose
  rw [Term.lexemes, List.append_assoc, List.cons_append]
  exact both

/-- A condition whose operator is a word. -/
theorem ReadsFront.keyword {n p : Nat} (left : Operand) {key : String} (k : Keyword key) (mem : key ∈ wordOperators)
    {ls : List Lexeme} {t : Tree} (shorter : rest.length ≤ ls.length) (tight : p < precedenceAt d (k.lexeme :: ls))
    (read : wordOperator d (Inner.above d (level d n)) (precedenceAt d (k.lexeme :: ls)) left.tree (k.lexeme :: ls) =
      .ok (t, rest)) : ReadsFront d n p (left.lexemes ++ k.lexeme :: ls) t rest := by
  have followed : Follows (k.lexeme :: ls) := .keyword k (List.mem_cons_of_mem _ (List.mem_cons_of_mem _ mem)) ls
  exact (left.readsFront followed).step (Nat.lt_succ_of_le shorter) tight
    ((infixOperator_of_keyword k mem left.tree _ ls).trans read)

theorem ReadsFront.null {n p : Nat} {left : Operand} (is : Keyword "IS") (negation : Option (Keyword "NOT"))
    (null : Keyword "NULL") (tight : p ≤ (precedence d).conjunction) (rest : List Lexeme) :
    ReadsFront d n p ((Term.null left is negation null).lexemes ++ rest) (Term.null left is negation null).tree
      rest := by
  have binds : p < precedenceAt d (is.lexeme :: ((negation.map (·.lexeme)).toList ++ [null.lexeme] ++ rest)) := by
    rw [precedenceAt_keyword is (by decide)]
    exact Nat.lt_of_le_of_lt tight (conjunction_lt d).2.1
  have front := ReadsFront.keyword (n := n) left is (by decide) (by simp; omega) binds
    (wordOperator_null left.tree is negation null _ rest)
  simpa [Term.lexemes, Term.tree] using front

theorem ReadsFront.between {n p : Nat} {left low high : Operand} (k : Keyword "BETWEEN") (joint : Keyword "AND")
    (tight : p ≤ (precedence d).conjunction) (ends : Ends rest) :
    ReadsFront d (n + 1) p ((Term.between left k low joint high).lexemes ++ rest)
      (Term.between left k low joint high).tree rest := by
  have above := (conjunction_lt d).2.2.1
  have binds (ls : List Lexeme) : p < precedenceAt d (k.lexeme :: ls) := by
    rw [precedenceAt_keyword k (by decide)]
    exact Nat.lt_of_le_of_lt tight above
  have joined : Ends (joint.lexeme :: (high.lexemes ++ rest)) := .keyword joint (.inl rfl) _
  have low_read := low.exprAbove (n := n) joined.follows
    (Nat.le_trans (precedenceAt_le_of_ends joined) (Nat.le_of_lt above))
  have high_read := high.exprAbove (n := n) ends.follows
    (Nat.le_trans (precedenceAt_le_of_ends ends) (Nat.le_of_lt above))
  have read : Grammar.between d (Inner.above d (level d (n + 1))) left.tree
      (low.lexemes ++ joint.lexeme :: (high.lexemes ++ rest)) =
        .ok (.form "BETWEEN" [left.tree, low.tree, high.tree], rest) := by
    rw [Grammar.between, bind_of_ok low_read, bind_of_ok (word_cons joint _)]
    exact (bind_of_ok high_read).trans rfl
  have front := ReadsFront.keyword left k (by decide) (by simp; omega) (binds _)
    ((wordOperator_between left.tree k _ _).trans read)
  simpa [Term.lexemes, Term.tree] using front

theorem ReadsFront.like {n p : Nat} {left pattern : Operand} (k : Keyword "LIKE")
    (tight : p ≤ (precedence d).conjunction) (ends : Ends rest) :
    ReadsFront d (n + 1) p ((Term.like left k pattern).lexemes ++ rest) (Term.like left k pattern).tree rest := by
  have above := (conjunction_lt d).2.2.2
  have binds : p < precedenceAt d (k.lexeme :: (pattern.lexemes ++ rest)) := by
    rw [precedenceAt_keyword k (by decide)]
    exact Nat.lt_of_le_of_lt tight above
  have pattern_read := pattern.exprAbove (n := n) ends.follows
    (Nat.le_trans (precedenceAt_le_of_ends ends) (Nat.le_of_lt above))
  have no_escape : whenever (word? "ESCAPE") (textLiteral d) rest = .ok (none, rest) := by
    rw [whenever, bind_of_ok (word?_of_ne (ends.follows.key_ne (by decide)))]
    rfl
  have read : Grammar.pattern d (Inner.above d (level d (n + 1))) "LIKE" left.tree (pattern.lexemes ++ rest) =
      .ok (.form "LIKE" [left.tree, pattern.tree], rest) := by
    rw [Grammar.pattern, bind_of_ok pattern_read]
    exact (bind_of_ok no_escape).trans rfl
  have front := ReadsFront.keyword left k (by decide) (by simp) binds
    ((wordOperator_like left.tree k _ (pattern.startsPlain.append rest)).trans read)
  simpa [Term.lexemes, Term.tree] using front

theorem isListEnd_literal (l : Literal) : isListEnd (some l.lexeme) = false := by
  cases l <;> rfl

theorem Literal.expr {n : Nat} (l : Literal) {mark : String} (mem : mark ∈ [")", ","]) (ls : List Lexeme) :
    (Inner.above d (level d (n + 1))).expr (l.lexeme :: .symbol mark :: ls) =
      .ok (.literal l.lexeme, .symbol mark :: ls) := by
  refine (Operand.literal l).exprAbove (.symbol (List.mem_append_left comparisons mem) ls) ?_
  rcases List.mem_pair.1 mem with rfl | rfl <;> exact Nat.le_refl 0

/-- The literals of a list are read up to its end. -/
theorem itemsWithin_literals {n bound : Nat} (first : Literal) {more : List Literal} (enough : more.length < bound) :
    itemsWithin d (Inner.above d (level d (n + 1))).expr bound (literalList first more ++ .symbol ")" :: rest) =
      .ok ((first :: more).map fun l => .literal l.lexeme, .symbol ")" :: rest) := by
  induction more generalizing first bound with
  | nil =>
    obtain ⟨bound, rfl⟩ := Nat.exists_eq_succ_of_ne_zero (Nat.ne_zero_of_lt enough)
    change itemsWithin d _ (bound + 1) (first.lexeme :: .symbol ")" :: rest) = _
    rw [itemsWithin, bind_of_ok (first.expr (by decide) _), bind_of_ok (comma?_closing rest)]
    rfl
  | cons l more ih =>
    obtain ⟨bound, rfl⟩ := Nat.exists_eq_succ_of_ne_zero (Nat.ne_zero_of_lt enough)
    have behind := ih l (Nat.lt_of_succ_lt_succ enough)
    have comma (ls : List Lexeme) : comma? d (.symbol "," :: l.lexeme :: ls) = .ok (true, l.lexeme :: ls) := by
      have peeked : peek (l.lexeme :: ls) = .ok (some l.lexeme, l.lexeme :: ls) := rfl
      rw [comma?, bind_of_ok (symbol?_cons _ _), if_pos rfl, bind_of_ok peeked, isListEnd_literal, Bool.and_false]
      rfl
    change itemsWithin d _ (bound + 1) (first.lexeme :: .symbol "," :: (literalList l more ++ .symbol ")" :: rest)) = _
    rw [itemsWithin, bind_of_ok (first.expr (by decide) _)]
    exact (bind_of_ok (comma _)).trans ((bind_of_ok behind).trans rfl)

theorem membership_literals {n : Nat} (left : Tree) (first : Literal) (more : List Literal) (rest : List Lexeme) :
    membership d (Inner.above d (level d (n + 1))) left
      (.symbol "(" :: (literalList first more ++ .symbol ")" :: rest)) =
        .ok (.form "IN" (left :: (first :: more).map fun l => .literal l.lexeme), rest) := by
  have no_unnest (ls : List Lexeme) : word? "UNNEST" (.symbol "(" :: ls) = .ok (false, .symbol "(" :: ls) :=
    word?_of_ne (by rintro l ⟨⟩; exact (by decide : "" ≠ "UNNEST"))
  have key_read : peekKey (literalList first more ++ .symbol ")" :: rest) =
      .ok (first.lexeme.key, literalList first more ++ .symbol ")" :: rest) := rfl
  have no_query : first.lexeme.key ∉ ["SELECT", "WITH"] := by
    cases first <;> exact (by decide : "" ∉ ["SELECT", "WITH"])
  have items_read : items d (Inner.above d (level d (n + 1))).expr (literalList first more ++ .symbol ")" :: rest) =
      .ok ((first :: more).map fun l => .literal l.lexeme, .symbol ")" :: rest) := by
    refine itemsWithin_literals first ?_
    simp [literalList, List.length_flatMap]
    omega
  have inside : (do
      if ["SELECT", "WITH"].contains (← peekKey) then
        return .form "IN" [left, ← (Inner.above d (level d (n + 1))).query]
      else return .form "IN" (left :: (← items d (Inner.above d (level d (n + 1))).expr)) : Read Tree)
        (literalList first more ++ .symbol ")" :: rest) =
      .ok (.form "IN" (left :: (first :: more).map fun l => .literal l.lexeme), .symbol ")" :: rest) := by
    rw [bind_of_ok key_read, if_neg (by simpa using no_query)]
    exact (bind_of_ok items_read).trans rfl
  rw [membership, bind_of_ok (no_unnest _), if_neg (by decide), inParens, bind_of_ok (symbol_cons _ _),
    bind_of_ok inside, bind_of_ok (symbol_cons _ _)]
  rfl

theorem ReadsFront.among {n p : Nat} {left : Operand} (k : Keyword "IN") (first : Literal) (more : List Literal)
    (tight : p ≤ (precedence d).conjunction) (rest : List Lexeme) :
    ReadsFront d (n + 1) p ((Term.among left k first more).lexemes ++ rest) (Term.among left k first more).tree
      rest := by
  have binds (ls : List Lexeme) : p < precedenceAt d (k.lexeme :: ls) := by
    rw [precedenceAt_keyword k (by decide)]
    exact Nat.lt_of_le_of_lt tight (conjunction_lt d).2.2.1
  have front := ReadsFront.keyword left k (by decide) (by simp; omega) (binds _)
    ((wordOperator_in left.tree k _ _).trans (membership_literals (n := n) left.tree first more rest))
  simpa [Term.lexemes, Term.tree] using front

/-- A condition that is joined to a front, which it binds to as tightly as the word between them. -/
theorem ReadsFront.joined {n p q : Nat} {ls ls' : List Lexeme} {key : String} {left right : Tree} (k : Keyword key)
    (joins : key = "AND" ∨ key = "OR") (front : ReadsFront d (n + 1) p ls left (k.lexeme :: ls' ++ rest))
    (tight : p < q) (binds : precedenceAt d (k.lexeme :: ls' ++ rest) = q) (plain : StartsPlain ls')
    (behind : ReadsFront d n q (ls' ++ rest) right rest) (loose : precedenceAt d rest ≤ q) :
    ReadsFront d (n + 1) p ls (.form key [left, right]) rest := by
  have not_div : k.lexeme.key ≠ "DIV" := by
    rw [k.spelled]
    rcases joins with eq | eq <;> rw [eq] <;> decide
  have is_binary := binary?_word (d := d) (l := k.lexeme) (by rw [k.spelled]; exact joins) (ls' ++ rest)
  have both := front.operator tight binds not_div is_binary plain behind loose
  rw [k.spelled] at both
  exact both

mutual

theorem Term.readsFront {n p : Nat} (tight : p ≤ (precedence d).conjunction) : ∀ t : Term, t.depth ≤ n →
    ∀ {rest}, Ends rest → ReadsFront d n p (t.lexemes ++ rest) t.tree rest
  | .group inside, deep, rest, ends => by
    obtain ⟨n, rfl⟩ := Nat.exists_eq_add_of_le' (Nat.le_trans (Nat.le_add_left 1 _) deep)
    have closing : Ends (.symbol ")" :: rest) := by
      rintro l ⟨⟩
      exact .inl rfl
    have whole : (level d (n + 1)).exprAbove 0 (inside.lexemes ++ .symbol ")" :: rest) =
        .ok (inside.tree, .symbol ")" :: rest) :=
      (inside.readsFront (disjunction_pos d) (Nat.le_of_succ_le_succ deep) closing (Nat.zero_le _)).whole
        (Nat.zero_le _)
    rw [Term.lexemes, List.append_assoc]
    exact .of_operand (operandStep_group _ inside.startsPlain whole ends.follows)
  | .null left is negation word, deep, rest, ends => .null is negation word tight rest
  | .comparison left mark compares right, deep, rest, ends => by
    obtain ⟨n, rfl⟩ := Nat.exists_eq_add_of_le' (by exact deep : 1 ≤ n)
    exact .comparison compares tight ends
  | .among left word first more, deep, rest, ends => by
    obtain ⟨n, rfl⟩ := Nat.exists_eq_add_of_le' (by exact deep : 1 ≤ n)
    exact .among word first more tight rest
  | .between left word low joint high, deep, rest, ends => by
    obtain ⟨n, rfl⟩ := Nat.exists_eq_add_of_le' (by exact deep : 1 ≤ n)
    exact .between word joint tight ends
  | .like left word pattern, deep, rest, ends => by
    obtain ⟨n, rfl⟩ := Nat.exists_eq_add_of_le' (by exact deep : 1 ≤ n)
    exact .like word tight ends

theorem Conjunction.readsFront {n p : Nat} (tight : p < (precedence d).conjunction) : ∀ c : Conjunction, c.depth ≤ n →
    ∀ {rest}, Ends rest → ReadsFront d n p (c.lexemes ++ rest) c.tree rest
  | .one t, deep, rest, ends => t.readsFront (Nat.le_of_lt tight) deep ends
  | .more front joint last, deep, rest, ends => by
    have front_deep : front.depth ≤ n := Nat.le_trans (Nat.le_max_left _ _) deep
    have last_deep : last.depth + 1 ≤ n := Nat.le_trans (Nat.le_max_right _ _) deep
    obtain ⟨n, rfl⟩ := Nat.exists_eq_add_of_le' (Nat.le_trans (Nat.le_add_left 1 _) last_deep)
    have binds := precedenceAt_and (d := d) joint.spelled (last.lexemes ++ rest)
    rw [Conjunction.lexemes, List.append_assoc]
    exact (front.readsFront tight front_deep (.keyword joint (.inl rfl) _)).joined joint (.inl rfl) tight binds
      last.startsPlain (last.readsFront (Nat.le_refl _) (Nat.le_of_succ_le_succ last_deep) ends)
      (precedenceAt_le_of_ends ends)

theorem Disjunction.readsFront {n p : Nat} (tight : p < (precedence d).disjunction) : ∀ e : Disjunction, e.depth ≤ n →
    ∀ {rest}, Ends rest → precedenceAt d rest ≤ (precedence d).disjunction →
      ReadsFront d n p (e.lexemes ++ rest) e.tree rest
  | .one c, deep, rest, ends, _ => c.readsFront (Nat.lt_trans tight (disjunction_lt_conjunction d)) deep ends
  | .more front joint last, deep, rest, ends, loose => by
    have front_deep : front.depth ≤ n := Nat.le_trans (Nat.le_max_left _ _) deep
    have last_deep : last.depth + 1 ≤ n := Nat.le_trans (Nat.le_max_right _ _) deep
    obtain ⟨n, rfl⟩ := Nat.exists_eq_add_of_le' (Nat.le_trans (Nat.le_add_left 1 _) last_deep)
    have binds := precedenceAt_or (d := d) joint.spelled (last.lexemes ++ rest)
    rw [Disjunction.lexemes, List.append_assoc]
    exact (front.readsFront tight front_deep (.keyword joint (.inr rfl) _) (Nat.le_of_eq binds)).joined joint (.inr rfl)
      tight binds last.startsPlain
      (last.readsFront (disjunction_lt_conjunction d) (Nat.le_of_succ_le_succ last_deep) ends) loose

end

end Joinery.Filter
