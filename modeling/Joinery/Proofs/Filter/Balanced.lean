import Mathlib.Data.List.Infix
import Mathlib.Data.List.Count
import Mathlib.Tactic.SplitIfs

/-!
# Parentheses in what rules take

Some tokens open a parenthesis, some close one, and some end a statement. `IsSelfContained` says that a list of tokens
ends no statement and that its parentheses belong to each other, and `openBehind` counts the parentheses that are open
behind some tokens (`isSelfContained_iff`). What a rule of a grammar takes is `Taken`: tokens of its own, and between
them what other rules take. Where what each rule takes of its own is self-contained, so is all that is taken
(`Taken.isSelfContained_tokens`).
-/

namespace Joinery.Filter

/-- What a token is for the statement around it. -/
inductive Mark
  | opening
  | closing
  | semicolon
  | other
  deriving DecidableEq

variable {τ : Type} (mark : τ → Mark)

/-- No token ends the statement around these tokens, and no parenthesis belongs to it. -/
structure IsSelfContained (ts : List τ) : Prop where
  no_semicolon : ∀ t ∈ ts, mark t ≠ .semicolon
  opened_first : ∀ front, front <+: ts →
    front.countP (mark · = .closing) ≤ front.countP (mark · = .opening)
  all_closed : ts.countP (mark · = .opening) = ts.countP (mark · = .closing)

/-- How many parentheses are open behind some tokens in front of which some are. There is no number behind a semicolon or
a parenthesis that closes nothing. -/
def openBehind : Nat → List τ → Option Nat
  | n, [] => some n
  | n, t :: ts =>
    match mark t with
    | .opening => openBehind (n + 1) ts
    | .closing => if n = 0 then none else openBehind (n - 1) ts
    | .semicolon => none
    | .other => openBehind n ts

variable {mark} {n m : Nat} {t : τ} {ts : List τ}

theorem openBehind_opening (opening : mark t = .opening) (n : Nat) (ts : List τ) :
    openBehind mark n (t :: ts) = openBehind mark (n + 1) ts := by
  rw [openBehind, opening]

theorem openBehind_closing (closing : mark t = .closing) (n : Nat) (ts : List τ) :
    openBehind mark (n + 1) (t :: ts) = openBehind mark n ts := by
  rw [openBehind, closing]
  exact if_neg (Nat.succ_ne_zero n)

theorem openBehind_closing_zero (closing : mark t = .closing) (ts : List τ) : openBehind mark 0 (t :: ts) = none := by
  rw [openBehind, closing]
  exact if_pos rfl

theorem openBehind_semicolon (semicolon : mark t = .semicolon) (n : Nat) (ts : List τ) :
    openBehind mark n (t :: ts) = none := by
  rw [openBehind, semicolon]

theorem openBehind_other (other : mark t = .other) (n : Nat) (ts : List τ) :
    openBehind mark n (t :: ts) = openBehind mark n ts := by
  rw [openBehind, other]

theorem openBehind_append (n : Nat) (ts ts' : List τ) :
    openBehind mark n (ts ++ ts') = (openBehind mark n ts).bind (openBehind mark · ts') := by
  induction ts generalizing n with
  | nil => rfl
  | cons t ts ih =>
    simp only [List.cons_append, openBehind]
    split
    · exact ih _
    · split_ifs
      · rfl
      · exact ih _
    · rfl
    · exact ih _

/-- Parentheses that were open before stay open. -/
theorem openBehind_add (behind : openBehind mark n ts = some m) (k : Nat) :
    openBehind mark (n + k) ts = some (m + k) := by
  induction ts generalizing n with
  | nil => exact congrArg (fun m => some (m + k)) (Option.some.inj behind)
  | cons t ts ih =>
    cases kind : mark t with
    | opening =>
      rw [openBehind_opening kind] at behind ⊢
      rw [Nat.add_right_comm]
      exact ih behind
    | closing =>
      cases n with
      | zero =>
        rw [openBehind_closing_zero kind] at behind
        cases behind
      | succ n =>
        rw [openBehind_closing kind] at behind
        rw [Nat.add_right_comm, openBehind_closing kind]
        exact ih behind
    | semicolon =>
      rw [openBehind_semicolon kind] at behind
      cases behind
    | other =>
      rw [openBehind_other kind] at behind ⊢
      exact ih behind

theorem forall_prefix_cons_iff {p : List τ → Prop} :
    (∀ front, front <+: t :: ts → p front) ↔ p [] ∧ ∀ front, front <+: ts → p (t :: front) := by
  constructor
  · exact fun h => ⟨h [] List.nil_prefix, fun front before => h _ ((List.prefix_cons_inj t).2 before)⟩
  · rintro ⟨none_read, some_read⟩ front before
    rcases List.prefix_cons_iff.1 before with rfl | ⟨front, rfl, before⟩
    · exact none_read
    · exact some_read front ((List.prefix_cons_inj t).1 before)

/-- The parentheses that are open are counted where none is closed before it is opened. -/
theorem openBehind_eq_some_iff : openBehind mark n ts = some m ↔ (∀ t ∈ ts, mark t ≠ .semicolon) ∧
    (∀ front, front <+: ts → front.countP (mark · = .closing) ≤ n + front.countP (mark · = .opening)) ∧
      n + ts.countP (mark · = .opening) = m + ts.countP (mark · = .closing) := by
  induction ts generalizing n with
  | nil => simp [openBehind]
  | cons t ts ih =>
    rw [forall_prefix_cons_iff, List.forall_mem_cons]
    simp only [List.countP_nil, Nat.zero_le, true_and, List.countP_cons]
    cases kind : mark t with
    | opening =>
      rw [openBehind_opening kind, ih]
      simp [Nat.add_assoc, Nat.add_comm 1]
    | closing =>
      cases n with
      | zero =>
        rw [openBehind_closing_zero kind]
        simp only [reduceCtorEq, false_iff, not_and]
        exact fun _ opened_first => absurd (opened_first [] List.nil_prefix) (by simp)
      | succ n =>
        rw [openBehind_closing kind, ih]
        simp only [ne_eq, reduceCtorEq, not_false_eq_true, true_and, decide_true, if_true, decide_false,
          Bool.false_eq_true, if_false, Nat.add_zero, Nat.add_right_comm n 1, Nat.add_le_add_iff_right,
          ← Nat.add_assoc m, Nat.add_right_cancel_iff]
    | semicolon =>
      rw [openBehind_semicolon kind]
      simp
    | other =>
      rw [openBehind_other kind, ih]
      simp

theorem isSelfContained_iff : IsSelfContained mark ts ↔ openBehind mark 0 ts = some 0 := by
  rw [openBehind_eq_some_iff]
  simp only [Nat.zero_add]
  exact ⟨fun ⟨h, h', h''⟩ => ⟨h, h', h''⟩, fun ⟨h, h', h''⟩ => ⟨h, h', h''⟩⟩

instance (ts : List τ) : Decidable (IsSelfContained mark ts) :=
  decidable_of_iff _ isSelfContained_iff.symm

/-- As many parentheses are open behind self-contained tokens as in front of them. -/
theorem IsSelfContained.openBehind_eq (contained : IsSelfContained mark ts) (n : Nat) :
    openBehind mark n ts = some n := by
  have shifted := openBehind_add (isSelfContained_iff.1 contained) n
  rwa [Nat.zero_add] at shifted

/-! ## Rules -/

/-- What a rule of a grammar takes: tokens of its own and, between them, what the rules inside it take. -/
inductive Taken (τ : Type)
  | nothing
  | token (t : τ) (behind : Taken τ)
  | rule (inside behind : Taken τ)

namespace Taken

def tokens : Taken τ → List τ
  | nothing => []
  | token t behind => t :: behind.tokens
  | rule inside behind => inside.tokens ++ behind.tokens

/-- The tokens that a rule takes of its own. -/
def own : Taken τ → List τ
  | nothing => []
  | token t behind => t :: behind.own
  | rule _ behind => behind.own

/-- What each rule inside takes of its own. -/
def inner : Taken τ → List (List τ)
  | nothing => []
  | token _ behind => behind.inner
  | rule inside behind => inside.own :: inside.inner ++ behind.inner

/-- What each rule takes of its own, this one and those inside. -/
def rules (taken : Taken τ) : List (List τ) :=
  taken.own :: taken.inner

def ofTokens : List τ → Taken τ
  | [] => nothing
  | t :: ts => token t (ofTokens ts)

def append : Taken τ → Taken τ → Taken τ
  | nothing, more => more
  | token t behind, more => token t (behind.append more)
  | rule inside behind, more => rule inside (behind.append more)

@[simp]
theorem tokens_ofTokens (ts : List τ) : (ofTokens ts).tokens = ts := by
  induction ts with
  | nil => rfl
  | cons t ts ih => rw [ofTokens, tokens, ih]

@[simp]
theorem own_ofTokens (ts : List τ) : (ofTokens ts).own = ts := by
  induction ts with
  | nil => rfl
  | cons t ts ih => rw [ofTokens, own, ih]

@[simp]
theorem inner_ofTokens (ts : List τ) : (ofTokens ts).inner = [] := by
  induction ts with
  | nil => rfl
  | cons t ts ih => rw [ofTokens, inner, ih]

@[simp]
theorem tokens_append (taken more : Taken τ) : (taken.append more).tokens = taken.tokens ++ more.tokens := by
  induction taken with
  | nothing => rfl
  | token t behind ih => rw [append, tokens, ih, tokens, List.cons_append]
  | rule inside behind _ ih => rw [append, tokens, ih, tokens, List.append_assoc]

@[simp]
theorem own_append (taken more : Taken τ) : (taken.append more).own = taken.own ++ more.own := by
  induction taken with
  | nothing => rfl
  | token t behind ih => rw [append, own, ih, own, List.cons_append]
  | rule inside behind _ ih => rw [append, own, ih, own]

@[simp]
theorem inner_append (taken more : Taken τ) : (taken.append more).inner = taken.inner ++ more.inner := by
  induction taken with
  | nothing => rfl
  | token t behind ih => rw [append, inner, ih, inner]
  | rule inside behind _ ih => rw [append, inner, ih, inner, List.append_assoc]

/-- What a rule takes of its own is some of the tokens, in the same order. -/
theorem sublist_of_mem_rules {taken : Taken τ} {own : List τ} (mem : own ∈ taken.rules) : own.Sublist taken.tokens := by
  induction taken generalizing own with
  | nothing => exact List.mem_singleton.1 mem ▸ List.Sublist.slnil
  | token t behind ih =>
    rcases List.mem_cons.1 mem with rfl | mem
    · exact (ih List.mem_cons_self).cons_cons t
    · exact (ih (List.mem_cons_of_mem _ mem)).cons t
  | rule inside behind ih_inside ih_behind =>
    rcases List.mem_cons.1 mem with rfl | mem
    · exact (ih_behind List.mem_cons_self).trans (List.sublist_append_right _ _)
    · rcases List.mem_append.1 mem with mem | mem
      · exact (ih_inside mem).trans (List.sublist_append_left _ _)
      · exact (ih_behind (List.mem_cons_of_mem _ mem)).trans (List.sublist_append_right _ _)

/-- Self-contained rules inside change nothing for the parentheses of a rule. -/
theorem openBehind_tokens {taken : Taken τ} (contained : ∀ own ∈ taken.inner, IsSelfContained mark own) (n : Nat) :
    openBehind mark n taken.tokens = openBehind mark n taken.own := by
  induction taken generalizing n with
  | nothing => rfl
  | token t behind ih => simp only [tokens, own, openBehind, ih contained]
  | rule inside behind ih_inside ih_behind =>
    rw [inner, List.cons_append, List.forall_mem_cons, List.forall_mem_append] at contained
    obtain ⟨inside_own, inside_inner, behind_inner⟩ := contained
    rw [tokens, openBehind_append, ih_inside inside_inner, inside_own.openBehind_eq, Option.bind_some,
      ih_behind behind_inner, own]

/-- Where what each rule takes of its own is self-contained, so is all that is taken. -/
theorem isSelfContained_tokens {taken : Taken τ} (contained : ∀ own ∈ taken.rules, IsSelfContained mark own) :
    IsSelfContained mark taken.tokens := by
  obtain ⟨first, inner⟩ := List.forall_mem_cons.1 contained
  rw [isSelfContained_iff, openBehind_tokens inner]
  exact isSelfContained_iff.1 first

end Taken

end Joinery.Filter
