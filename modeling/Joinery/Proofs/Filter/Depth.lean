import Joinery.Filter.Grammar.Basic
import Joinery.Proofs.Filter.Balanced
import Joinery.Proofs.Outcome

/-!
# Parentheses in what is read

The rules of the grammar look at most lexemes that they take, and a few are taken without a look at them
(`TakenUnread`). `Lifts` says how many parentheses a rule opens or closes in the lexemes that it looks at. Most rules
close what they open (`KeepsDepth`), some begin behind an opening parenthesis (`Closes`). Rules that are made of such
rules are such rules, so each rule of the grammar is looked at once. The lemmas for this are tagged for `grind`, which
puts them together where a rule is a short chain of others.
-/

namespace Joinery.Filter

/-! ## Lexemes -/

/-- What a lexeme is for the statement around it. -/
def Lexeme.mark : Lexeme → Mark
  | symbol "(" => .opening
  | symbol ")" => .closing
  | symbol ";" => .semicolon
  | _ => .other

/-- Neither a parenthesis nor a semicolon. -/
structure Lexeme.IsNeutral (l : Lexeme) : Prop where
  not_opening : l ≠ .symbol "("
  not_closing : l ≠ .symbol ")"
  not_semicolon : l ≠ .symbol ";"

theorem Lexeme.IsNeutral.mark_eq {l : Lexeme} (neutral : l.IsNeutral) : l.mark = .other := by
  unfold mark
  split
  · exact absurd rfl neutral.not_opening
  · exact absurd rfl neutral.not_closing
  · exact absurd rfl neutral.not_semicolon
  · rfl

instance (l : Lexeme) : Decidable l.IsNeutral :=
  decidable_of_iff (l ≠ .symbol "(" ∧ l ≠ .symbol ")" ∧ l ≠ .symbol ";")
    ⟨fun ⟨h, h', h''⟩ => ⟨h, h', h''⟩, fun ⟨h, h', h''⟩ => ⟨h, h', h''⟩⟩

theorem openBehind_neutral {l : Lexeme} (neutral : l.IsNeutral) (n : Nat) (ls : List Lexeme) :
    openBehind Lexeme.mark n (l :: ls) = openBehind Lexeme.mark n ls :=
  openBehind_other neutral.mark_eq n ls

/-- Lexemes that a dialect takes without a look at each of them: what stands behind the name of a table after its word,
the name of an operator after the word for it, and a parenthesis after the word for a condition on rows, where no
condition follows. -/
inductive TakenUnread (d : Dialect) : List Lexeme → Prop
  | table {word : Lexeme} {unread : List Lexeme} (value : String) (quote : Option Char) (is_table : word.key = "TABLE")
      (few : unread.length ≤ 2) (no_point : unread.head? ≠ some (.symbol ".")) :
      TakenUnread d (word :: .word value quote :: unread)
  | operator {word : Lexeme} (first : Lexeme) (others : List Lexeme) (dialect : d = .postgres)
      (is_operator : word.key = "OPERATOR") :
      TakenUnread d
        (word :: .symbol "(" :: first :: (others.flatMap fun l => [.symbol ".", l]) ++ [.symbol ")"])
  | filter {word : Lexeme} (dialect : d = .postgres ∨ d = .duckdb) (is_filter : word.key = "FILTER") :
      TakenUnread d [word, .symbol "("]

namespace Grammar

/-! ## Rules -/

variable {d : Dialect} {α β : Type} {i m o : Nat} {ls : List Lexeme}

/-- Where so many parentheses are open before a rule is applied to some lexemes, so many are open behind it. -/
def Lifts (d : Dialect) (i o : Nat) (rule : Read α) (ls : List Lexeme) : Prop :=
  ∀ a rest, rule ls = .ok (a, rest) → ∃ taken : Taken Lexeme, ls = taken.tokens ++ rest ∧
    (∀ own ∈ taken.inner, TakenUnread d own) ∧ ∀ n, openBehind Lexeme.mark (n + i) taken.own = some (n + o)

/-- A rule closes the parentheses that it opens. -/
def KeepsDepth (d : Dialect) (rule : Read α) : Prop :=
  ∀ ls, Lifts d 0 0 rule ls

/-- A rule closes one parenthesis more than it opens. -/
def Closes (d : Dialect) (rule : Read α) : Prop :=
  ∀ ls, Lifts d 1 0 rule ls

/-- A rule behind another one reads what that one leaves. -/
theorem bind_eq_ok {rule : Read α} {next : α → Read β} {b : β} {rest : List Lexeme} :
    (rule >>= next) ls = .ok (b, rest) ↔
      ∃ a middle, rule ls = .ok (a, middle) ∧ next a middle = .ok (b, rest) :=
  bind_eq_ok_iff.trans Prod.exists

/-- A rule that takes nothing. -/
theorem exists_taken_nothing (d : Dialect) (i : Nat) (ls : List Lexeme) : ∃ taken : Taken Lexeme,
    ls = taken.tokens ++ ls ∧ (∀ own ∈ taken.inner, TakenUnread d own) ∧
      ∀ n, openBehind Lexeme.mark (n + i) taken.own = some (n + i) :=
  ⟨.nothing, rfl, List.forall_mem_nil _, fun _ => rfl⟩

/-- A rule that takes lexemes and looks at each of them. -/
theorem exists_taken_read (d : Dialect) (taken ls : List Lexeme)
    (lifts : ∀ n, openBehind Lexeme.mark (n + i) taken = some (n + o)) : ∃ taken' : Taken Lexeme,
      taken ++ ls = taken'.tokens ++ ls ∧ (∀ own ∈ taken'.inner, TakenUnread d own) ∧
        ∀ n, openBehind Lexeme.mark (n + i) taken'.own = some (n + o) := by
  refine ⟨.ofTokens taken, ?_, ?_, ?_⟩
  · rw [Taken.tokens_ofTokens]
  · rw [Taken.inner_ofTokens]
    exact List.forall_mem_nil _
  · rwa [Taken.own_ofTokens]

theorem Lifts.pure (a : α) : Lifts d i i (pure a) ls := by
  rintro _ _ ⟨⟩
  exact exists_taken_nothing d i ls

theorem Lifts.bind {rule : Read α} {next : α → Read β} (h : Lifts d i m rule ls)
    (h' : ∀ a rest, rule ls = .ok (a, rest) → Lifts d m o (next a) rest) :
    Lifts d i o (rule >>= next) ls := by
  intro b rest read
  obtain ⟨a, middle, first, second⟩ := bind_eq_ok.1 read
  obtain ⟨taken, rfl, unread, lifts⟩ := h a middle first
  obtain ⟨taken', rfl, unread', lifts'⟩ := h' a middle first b rest second
  refine ⟨taken.append taken', ?_, ?_, fun n => ?_⟩
  · rw [Taken.tokens_append, List.append_assoc]
  · rw [Taken.inner_append, List.forall_mem_append]
    exact ⟨unread, unread'⟩
  · rw [Taken.own_append, openBehind_append, lifts, Option.bind_some, lifts']

theorem Lifts.refuse : Lifts d i o (refuse : Read α) ls := by
  rintro _ _ ⟨⟩

/-- Parentheses that were open before stay open. -/
theorem Lifts.deeper {rule : Read α} (h : Lifts d i o rule ls) (k : Nat) :
    Lifts d (i + k) (o + k) rule ls := by
  intro a rest read
  obtain ⟨taken, eq, unread, lifts⟩ := h a rest read
  refine ⟨taken, eq, unread, fun n => ?_⟩
  rw [Nat.add_comm i k, ← Nat.add_assoc, lifts, Nat.add_comm o k, Nat.add_assoc]

theorem KeepsDepth.lifts {rule : Read α} (h : KeepsDepth d rule) (i : Nat) (ls : List Lexeme) :
    Lifts d i i rule ls := by
  simpa using (h ls).deeper i

theorem lifts_next {next' : Option Lexeme → Read α} {l : Lexeme} (neutral : l.IsNeutral)
    (h : Lifts d i o (next' (some l)) ls) : Lifts d i o (next >>= next') (l :: ls) := by
  refine .bind (m := i) ?_ ?_
  · rintro _ _ ⟨⟩
    exact exists_taken_read d [l] ls fun n => openBehind_neutral neutral _ _
  · rintro _ _ ⟨⟩
    exact h

theorem lifts_get_bind {rule : List Lexeme → Read α} (h : Lifts d i o (rule ls) ls) :
    Lifts d i o (get >>= rule) ls := h

/-- A rule that takes a lexeme and then starts again in front of it. -/
theorem lifts_next_reset {rule : Option Lexeme → Read α} {again : Read α} {l : Lexeme}
    (reset : rule (some l) = (do set (l :: ls); again)) (h : Lifts d i o again (l :: ls)) :
    Lifts d i o (next >>= rule) (l :: ls) := by
  intro a rest read
  change rule (some l) ls = _ at read
  rw [reset] at read
  exact h a rest read

/-- A rule that drops lexemes that open as many parentheses as they close. -/
theorem lifts_modify_drop {taken : List Lexeme} {rule : Read α}
    (balanced : ∀ n, openBehind Lexeme.mark n taken = some n)
    (h : Lifts d i o rule ls) :
    Lifts d i o (modify (·.drop taken.length) >>= fun _ => rule) (taken ++ ls) := by
  have behind : (taken ++ ls).drop taken.length = ls := List.drop_left
  refine .bind (m := i) ?_ ?_
  · rintro _ _ ⟨⟩
    change ∃ taken', taken ++ ls = _ ++ (taken ++ ls).drop taken.length ∧ _
    rw [behind]
    exact exists_taken_read d taken ls fun n => balanced _
  · rintro _ _ ⟨⟩
    change Lifts d i o rule ((taken ++ ls).drop taken.length)
    rwa [behind]

/-! ### Rules made of others -/

@[grind ←]
theorem keepsDepth_pure (a : α) : KeepsDepth d (pure a) :=
  fun _ => .pure a

@[grind ←]
theorem keepsDepth_refuse : KeepsDepth d (refuse : Read α) :=
  fun _ => .refuse

@[grind ←]
theorem closes_refuse : Closes d (refuse : Read α) :=
  fun _ => .refuse

@[grind ←]
theorem KeepsDepth.bind {rule : Read α} {next : α → Read β} (h : KeepsDepth d rule)
    (h' : ∀ a, KeepsDepth d (next a)) : KeepsDepth d (rule >>= next) :=
  fun ls => (h ls).bind fun a rest _ => h' a rest

theorem KeepsDepth.seq {rule : Read α} {next : Read β} (h : KeepsDepth d rule) (h' : KeepsDepth d next) :
    KeepsDepth d (rule >>= fun _ => next) :=
  h.bind fun _ => h'

@[grind ←]
theorem Closes.bind {rule : Read α} {next : α → Read β} (h : Closes d rule)
    (h' : ∀ a, KeepsDepth d (next a)) : Closes d (rule >>= next) :=
  fun ls => (h ls).bind fun a rest _ => h' a rest

@[grind ←]
theorem KeepsDepth.bind_closes {rule : Read α} {next : α → Read β} (h : KeepsDepth d rule)
    (h' : ∀ a, Closes d (next a)) : Closes d (rule >>= next) :=
  fun ls => (h.lifts 1 ls).bind fun a rest _ => h' a rest

@[grind ←]
theorem KeepsDepth.map {rule : Read α} (f : α → β) (h : KeepsDepth d rule) : KeepsDepth d (f <$> rule) :=
  KeepsDepth.bind h fun _ => keepsDepth_pure _

theorem KeepsDepth.ite {c : Prop} [Decidable c] {rule rule' : Read α} (h : KeepsDepth d rule)
    (h' : KeepsDepth d rule') : KeepsDepth d (if c then rule else rule') := by
  split_ifs
  · exact h
  · exact h'

theorem Closes.ite {c : Prop} [Decidable c] {rule rule' : Read α} (h : Closes d rule) (h' : Closes d rule') :
    Closes d (if c then rule else rule') := by
  split_ifs
  · exact h
  · exact h'

@[grind ←]
theorem KeepsDepth.attempt {rule : Read α} (h : KeepsDepth d rule) : KeepsDepth d (attempt rule) := by
  intro ls a rest read
  unfold Grammar.attempt at read
  split at read
  · next found =>
    cases read
    exact h ls _ _ found
  · cases read
    exact exists_taken_nothing d 0 ls
  · cases read

/-- A rule that is tried first, and what is read where it does not apply. -/
@[grind ←]
theorem Closes.attempt_bind {rule : Read α} {next : Option α → Read β} (h : Closes d rule)
    (found : ∀ a, KeepsDepth d (next (some a))) (other : Closes d (next none)) :
    Closes d (attempt rule >>= next) := by
  intro ls b rest read
  obtain ⟨a, middle, first, second⟩ := bind_eq_ok.1 read
  unfold Grammar.attempt at first
  split at first
  · next a' _ applies =>
    cases first
    have both : Closes d (rule >>= fun a => next (some a)) := h.bind found
    exact both ls b rest (bind_eq_ok.2 ⟨a', middle, applies, second⟩)
  · cases first
    exact other _ b rest second
  · cases first

@[grind ←]
theorem KeepsDepth.withBound {rule : Nat → Read α} (h : ∀ n, KeepsDepth d (rule n)) :
    KeepsDepth d (withBound rule) :=
  fun ls => h _ ls

@[grind ←]
theorem Closes.withBound {rule : Nat → Read α} (h : ∀ n, Closes d (rule n)) : Closes d (withBound rule) :=
  fun ls => h _ ls

/-! ### Looking ahead -/

@[grind ←]
theorem keepsDepth_ahead (n : Nat) : KeepsDepth d (ahead n) := by
  rintro ls _ _ ⟨⟩
  exact exists_taken_nothing d 0 ls

@[grind ←]
theorem keepsDepth_peek : KeepsDepth d peek :=
  keepsDepth_ahead 0

@[grind ←]
theorem keepsDepth_keyAhead (n : Nat) : KeepsDepth d (keyAhead n) := by
  unfold keyAhead
  grind

@[grind ←]
theorem keepsDepth_peekKey : KeepsDepth d peekKey :=
  keepsDepth_keyAhead 0

/-- A rule that looks at the next lexeme. -/
theorem keepsDepth_peek_bind {rule : Option Lexeme → Read α} (nothing : KeepsDepth d (rule none))
    (found : ∀ l ls, Lifts d 0 0 (rule (some l)) (l :: ls)) : KeepsDepth d (peek >>= rule) := by
  intro ls
  cases ls with
  | nil => exact nothing []
  | cons l ls => exact found l ls

/-! ### Taking a lexeme -/

theorem isNeutral_symbol_iff {mark : String} :
    (Lexeme.symbol mark).IsNeutral ↔ mark ≠ "(" ∧ mark ≠ ")" ∧ mark ≠ ";" := by
  constructor
  · exact fun ⟨h, h', h''⟩ => ⟨fun e => h (e ▸ rfl), fun e => h' (e ▸ rfl), fun e => h'' (e ▸ rfl)⟩
  · exact fun ⟨h, h', h''⟩ => ⟨h ∘ Lexeme.symbol.inj, h' ∘ Lexeme.symbol.inj, h'' ∘ Lexeme.symbol.inj⟩

/-- Only words have a reserved form. -/
theorem isNeutral_of_key {l : Lexeme} (word : l.key ≠ "") : l.IsNeutral := by
  refine ⟨?_, ?_, ?_⟩
  all_goals
    rintro rfl
    exact word rfl

/-- A rule that takes a lexeme: what it does with one that is neutral, and with the others. -/
theorem lifts_next_bind {rule : Option Lexeme → Read α}
    (found : ∀ l, l.IsNeutral → ∀ ls, Lifts d i o (rule (some l)) ls) (nothing : Lifts d i o (rule none) [])
    (opening : ∀ ls, Lifts d i o (next >>= rule) (.symbol "(" :: ls))
    (closing : ∀ ls, Lifts d i o (next >>= rule) (.symbol ")" :: ls))
    (semicolon : ∀ ls, Lifts d i o (next >>= rule) (.symbol ";" :: ls)) (ls : List Lexeme) :
    Lifts d i o (next >>= rule) ls := by
  cases ls with
  | nil => exact nothing
  | cons l ls =>
    by_cases is_opening : l = .symbol "("
    · exact is_opening ▸ opening ls
    by_cases is_closing : l = .symbol ")"
    · exact is_closing ▸ closing ls
    by_cases is_semicolon : l = .symbol ";"
    · exact is_semicolon ▸ semicolon ls
    · have neutral : l.IsNeutral := ⟨is_opening, is_closing, is_semicolon⟩
      exact lifts_next neutral (found l neutral ls)

theorem lifts_next_bind_refuse {rule : Option Lexeme → Read α} {l : Lexeme} (refused : rule (some l) = refuse)
    (ls : List Lexeme) : Lifts d i o (next >>= rule) (l :: ls) := by
  intro a rest read
  change rule (some l) ls = _ at read
  rw [refused] at read
  cases read

/-- A rule that takes a lexeme and refuses parentheses and semicolons. -/
theorem keepsDepth_next_bind {rule : Option Lexeme → Read α}
    (found : ∀ l, l.IsNeutral → KeepsDepth d (rule (some l))) (nothing : KeepsDepth d (rule none))
    (opening : rule (some (.symbol "(")) = refuse) (closing : rule (some (.symbol ")")) = refuse)
    (semicolon : rule (some (.symbol ";")) = refuse) : KeepsDepth d (next >>= rule) :=
  lifts_next_bind found (nothing []) (lifts_next_bind_refuse opening) (lifts_next_bind_refuse closing)
    (lifts_next_bind_refuse semicolon)

/-- A lexeme that passes the test is taken, or all stay where they are. -/
theorem takeIf_bind_cases {test : Lexeme → Bool} {rule : Bool → Read α} {a : α} {rest : List Lexeme}
    (read : (takeIf test >>= rule) ls = .ok (a, rest)) :
    (∃ l behind, test l = true ∧ ls = l :: behind ∧ rule true behind = .ok (a, rest)) ∨
      (∀ l ∈ ls.head?, test l = false) ∧ rule false ls = .ok (a, rest) := by
  cases ls with
  | nil => exact .inr ⟨nofun, read⟩
  | cons l ls =>
    obtain ⟨taken, middle, first, second⟩ := bind_eq_ok.1 read
    change (if test l = true then _ else _ : Read Bool) (l :: ls) = _ at first
    split_ifs at first with passes
    · cases first
      exact .inl ⟨l, ls, passes, rfl, second⟩
    · cases first
      exact .inr ⟨fun l' mem => Option.some.inj mem ▸ Bool.not_eq_true _ ▸ passes, second⟩

@[grind ←]
theorem keepsDepth_takeIf {test : Lexeme → Bool} (neutral : ∀ l, test l = true → l.IsNeutral) :
    KeepsDepth d (takeIf test) := by
  refine keepsDepth_peek_bind (keepsDepth_pure _) fun l ls => ?_
  change Lifts d 0 0 (if test l = true then _ else _) _
  split_ifs with passes
  · exact lifts_next (neutral l passes) (.pure _)
  · exact .pure _

@[grind ←]
theorem keepsDepth_symbol? {mark : String} (neutral : mark ≠ "(" ∧ mark ≠ ")" ∧ mark ≠ ";") :
    KeepsDepth d (symbol? mark) := by
  refine keepsDepth_takeIf fun l is_symbol => ?_
  rw [of_decide_eq_true is_symbol]
  exact isNeutral_symbol_iff.2 neutral

@[grind ←]
theorem keepsDepth_word? {key : String} (word : key ≠ "") : KeepsDepth d (word? key) := by
  refine keepsDepth_takeIf fun l is_word => isNeutral_of_key ?_
  rwa [beq_iff_eq.1 is_word]

/-- Words that come next are no parentheses. -/
theorem openBehind_words {keys : List String} (words : "" ∉ keys) {ls : List Lexeme}
    (same : ls.map Lexeme.key = keys) (n : Nat) : openBehind Lexeme.mark n ls = some n := by
  induction ls generalizing keys with
  | nil => rfl
  | cons l ls ih =>
    subst same
    obtain ⟨first, others⟩ := not_or.1 (mt List.mem_cons.2 words)
    rw [openBehind_neutral (isNeutral_of_key (Ne.symm first)), ih others rfl]

@[grind ←]
theorem keepsDepth_words? {keys : List String} (words : "" ∉ keys) : KeepsDepth d (words? keys) := by
  intro ls
  change Lifts d 0 0 (if (ls.take keys.length).map Lexeme.key = keys then _ else _) ls
  split_ifs with same
  · rintro _ _ ⟨⟩
    have read := exists_taken_read (i := 0) (o := 0) d _ (ls.drop keys.length) (openBehind_words words same)
    rwa [List.take_append_drop] at read
  · exact .pure _

@[grind ←]
theorem keepsDepth_oneOf? {keys : List String} (words : "" ∉ keys) : KeepsDepth d (oneOf? keys) := by
  have word {key : String} (is_one : keys.contains key = true) : key ≠ "" := by
    rintro rfl
    exact words (List.contains_iff_mem.1 is_one)
  intro ls
  cases ls with
  | nil =>
    change Lifts d 0 0 (if keys.contains "" = true then _ else _) _
    rw [if_neg fun is_one => word is_one rfl]
    exact .pure _
  | cons l ls =>
    change Lifts d 0 0 (if keys.contains l.key = true then _ else _) _
    split_ifs with is_one
    · exact lifts_next (isNeutral_of_key (word is_one)) (.pure _)
    · exact .pure _

/-! ### What has to come next -/

@[grind ←]
theorem KeepsDepth.require {met : Read Bool} (h : KeepsDepth d met) : KeepsDepth d (require met) := by
  unfold Grammar.require
  grind

@[grind ←]
theorem keepsDepth_symbol {mark : String} (neutral : mark ≠ "(" ∧ mark ≠ ")" ∧ mark ≠ ";") :
    KeepsDepth d (symbol mark) :=
  KeepsDepth.require (keepsDepth_symbol? neutral)

@[grind ←]
theorem keepsDepth_word {key : String} (is_word : key ≠ "") : KeepsDepth d (word key) :=
  KeepsDepth.require (keepsDepth_word? is_word)

@[grind ←]
theorem keepsDepth_words {keys : List String} (are_words : "" ∉ keys) : KeepsDepth d (words keys) :=
  KeepsDepth.require (keepsDepth_words? are_words)

@[grind ←]
theorem keepsDepth_oneOf {keys : List String} (are_words : "" ∉ keys) : KeepsDepth d (oneOf keys) := by
  refine KeepsDepth.bind (keepsDepth_oneOf? are_words) fun key => ?_
  cases key with
  | none => exact keepsDepth_refuse
  | some key => exact keepsDepth_pure _

/-! ### Parentheses -/

theorem lifts_opening (n : Nat) : Lifts d n (n + 1) next (.symbol "(" :: ls) := by
  rintro _ _ ⟨⟩
  refine exists_taken_read d [.symbol "("] ls fun k => ?_
  rw [openBehind_opening rfl]
  rfl

theorem lifts_closing (n : Nat) : Lifts d (n + 1) n next (.symbol ")" :: ls) := by
  rintro _ _ ⟨⟩
  refine exists_taken_read d [.symbol ")"] ls fun k => ?_
  rw [← Nat.add_assoc, openBehind_closing rfl]
  rfl

theorem lifts_next_opening {rule : Option Lexeme → Read α}
    (h : Lifts d (i + 1) o (rule (some (.symbol "("))) ls) : Lifts d i o (next >>= rule) (.symbol "(" :: ls) := by
  refine (lifts_opening i).bind fun _ _ read => ?_
  cases read
  exact h

theorem lifts_next_closing {rule : Option Lexeme → Read α}
    (h : Lifts d i o (rule (some (.symbol ")"))) ls) : Lifts d (i + 1) o (next >>= rule) (.symbol ")" :: ls) := by
  refine (lifts_closing i).bind fun _ _ read => ?_
  cases read
  exact h

/-- A symbol comes next, or something else does. -/
theorem lifts_symbol?_bind {mark : String} {rule : Bool → Read α}
    (takes : ∀ ls, Lifts d i m next (.symbol mark :: ls)) (found : ∀ ls, Lifts d m o (rule true) ls)
    (other : ∀ ls, Lifts d i o (rule false) ls) (ls : List Lexeme) :
    Lifts d i o (symbol? mark >>= rule) ls := by
  intro a rest read
  rcases takeIf_bind_cases read with ⟨l, behind, is_symbol, rfl, taken⟩ | ⟨-, not_taken⟩
  · obtain rfl := of_decide_eq_true is_symbol
    have both : Lifts d i o (next >>= fun _ => rule true) (.symbol mark :: behind) :=
      (takes behind).bind fun _ rest _ => found rest
    exact both a rest taken
  · exact other ls a rest not_taken

theorem lifts_symbol {mark : String} (takes : ∀ ls, Lifts d i m next (.symbol mark :: ls)) (ls : List Lexeme) :
    Lifts d i m (symbol mark) ls := by
  unfold symbol require
  refine lifts_symbol?_bind takes (fun ls => ?_) (fun ls => ?_) ls
  · exact .pure _
  · exact .refuse

/-- A symbol that has to come next was the first lexeme. -/
theorem eq_cons_of_symbol {mark : String} {rest : List Lexeme} (read : symbol mark ls = .ok ((), rest)) :
    ls = .symbol mark :: rest := by
  rcases takeIf_bind_cases read with ⟨l, behind, is_symbol, rfl, taken⟩ | ⟨-, not_taken⟩
  · cases taken
    rw [of_decide_eq_true is_symbol]
  · cases not_taken

@[grind ←]
theorem keepsDepth_opening?_bind {rule : Bool → Read α} (opened : Closes d (rule true))
    (other : KeepsDepth d (rule false)) : KeepsDepth d (symbol? "(" >>= rule) :=
  lifts_symbol?_bind (fun _ => lifts_opening 0) opened other

@[grind ←]
theorem closes_closing?_bind {rule : Bool → Read α} (closed : KeepsDepth d (rule true))
    (other : Closes d (rule false)) : Closes d (symbol? ")" >>= rule) :=
  lifts_symbol?_bind (fun _ => lifts_closing 0) closed other

@[grind ←]
theorem keepsDepth_opening_bind {rule : Unit → Read α} (h : Closes d (rule ())) :
    KeepsDepth d (symbol "(" >>= rule) :=
  fun ls => (lifts_symbol (fun _ => lifts_opening 0) ls).bind fun _ rest _ => h rest

@[grind ←]
theorem closes_closing : Closes d (symbol ")") :=
  lifts_symbol fun _ => lifts_closing 0

@[grind ←]
theorem KeepsDepth.whenever {met : Read Bool} {rule : Read α} (h : KeepsDepth d met) (h' : KeepsDepth d rule) :
    KeepsDepth d (whenever met rule) := by
  unfold Grammar.whenever
  grind

@[grind ←]
theorem keepsDepth_whenever_opening {rule : Read α} (h : Closes d rule) :
    KeepsDepth d (whenever (symbol? "(") rule) :=
  keepsDepth_opening?_bind (h.bind fun _ => keepsDepth_pure _) (keepsDepth_pure _)

@[grind ←]
theorem KeepsDepth.inParens {rule : Read α} (h : KeepsDepth d rule) : KeepsDepth d (inParens rule) :=
  keepsDepth_opening_bind (h.bind_closes fun _ => closes_closing.bind fun _ => keepsDepth_pure _)

/-- A rule that looks at the reserved form of the next lexeme. -/
theorem keepsDepth_peekKey_bind {rule : String → Read α} (nothing : KeepsDepth d (rule ""))
    (found : ∀ l ls, l.IsNeutral → Lifts d 0 0 (rule l.key) (l :: ls)) : KeepsDepth d (peekKey >>= rule) := by
  intro ls
  cases ls with
  | nil => exact nothing []
  | cons l ls =>
    change Lifts d 0 0 (rule l.key) (l :: ls)
    by_cases is_word : l.key = ""
    · rw [is_word]
      exact nothing _
    · exact found l ls (isNeutral_of_key is_word)

/-! ### Lists -/

@[grind ←]
theorem keepsDepth_comma? (d' : Dialect) : KeepsDepth d (comma? d') := by
  unfold comma?
  grind

@[grind ←]
theorem KeepsDepth.items {item : Read α} (h : KeepsDepth d item) (d' : Dialect) :
    KeepsDepth d (items d' item) := by
  refine KeepsDepth.withBound fun bound => ?_
  induction bound with
  | zero => exact keepsDepth_refuse
  | succ bound ih =>
    unfold itemsWithin
    grind

@[grind ←]
theorem KeepsDepth.itemsUpTo {item : Read α} (h : KeepsDepth d item) (d' : Dialect) (closing : String) :
    KeepsDepth d (itemsUpTo d' closing item) := by
  unfold Grammar.itemsUpTo
  refine KeepsDepth.bind keepsDepth_peek fun first => KeepsDepth.bind (keepsDepth_ahead 1) fun second => ?_
  grind

@[grind ←]
theorem KeepsDepth.repeated {met : Read Bool} {rule : Read α} (h : KeepsDepth d met) (h' : KeepsDepth d rule) :
    KeepsDepth d (repeated met rule) := by
  refine KeepsDepth.withBound fun bound => ?_
  induction bound with
  | zero => exact keepsDepth_pure _
  | succ bound ih =>
    unfold repeatWithin
    grind

/-! ### Names and literals -/

@[grind ←]
theorem keepsDepth_name : KeepsDepth d name := by
  refine keepsDepth_next_bind (fun l _ => ?_) keepsDepth_refuse rfl rfl rfl
  grind

@[grind ←]
theorem keepsDepth_dottedName : KeepsDepth d dottedName := by
  unfold dottedName
  grind

@[grind ←]
theorem keepsDepth_nameList (d' : Dialect) : KeepsDepth d (nameList d') := by
  unfold nameList
  grind

@[grind ←]
theorem keepsDepth_textLiteral (d' : Dialect) : KeepsDepth d (textLiteral d') := by
  refine keepsDepth_next_bind (fun l _ => ?_) keepsDepth_refuse rfl rfl rfl
  grind

@[grind ←]
theorem keepsDepth_wholeNumber : KeepsDepth d wholeNumber := by
  refine keepsDepth_next_bind (fun l _ => ?_) keepsDepth_refuse rfl rfl rfl
  grind

@[grind ←]
theorem keepsDepth_value (d' : Dialect) : KeepsDepth d (value d') := by
  refine keepsDepth_next_bind (fun l _ => ?_) keepsDepth_refuse rfl rfl rfl
  split
  case h_4 mark _ =>
    refine .ite ?_ keepsDepth_refuse
    refine keepsDepth_next_bind (fun l _ => ?_) keepsDepth_refuse rfl rfl rfl
    grind
  all_goals grind

end Grammar

end Joinery.Filter
