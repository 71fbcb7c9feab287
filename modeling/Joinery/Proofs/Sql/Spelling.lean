import Mathlib.Data.List.Basic
import Mathlib.Tactic.Cases
import Joinery.Sql.Query

/-!
# Spelling of tokens

A list of tokens can be read back from its text if it is `Spaced`: no name follows another, no blank
follows an indentation, and nothing follows copied text. Words and marks are not beginnings of each
other, so their ends are known (`eq_of_mem_marks`); a name ends at a closing delimiter that is not
doubled (`quoteChars_append_inj`), and an indentation where the blanks end (`replicate_append_inj`).
-/

namespace Joinery

namespace Dialect

variable {d : Dialect}

/-- A delimited name ends where its closing delimiter stands alone. -/
theorem flatMap_quoteChar_append_inj {a b r s : List Char}
    (hr : r.head? ≠ some d.quotes.closing) (hs : s.head? ≠ some d.quotes.closing)
    (h : a.flatMap d.quoteChar ++ d.quotes.closing :: r =
      b.flatMap d.quoteChar ++ d.quotes.closing :: s) : a = b ∧ r = s := by
  -- A name that is over is followed by one closing delimiter, one that goes on with it by two.
  have ends {c : Char} {b r s : List Char} (hr : r.head? ≠ some d.quotes.closing) :
      d.quotes.closing :: r ≠ d.quoteChar c ++ (b.flatMap d.quoteChar ++ d.quotes.closing :: s) := by
    intro h
    unfold quoteChar at h
    split_ifs at h with closing
    · obtain rfl := (List.cons.inj h).2
      exact hr (by rw [closing]; rfl)
    · exact closing (List.cons.inj h).1.symm
  induction a generalizing b with
  | nil =>
    cases b with
    | nil => exact ⟨rfl, (List.cons.inj h).2⟩
    | cons c b => exact absurd (by simpa using h) (ends hr)
  | cons c a ih =>
    cases b with
    | nil => exact absurd (by simpa using h.symm) (ends hs)
    | cons c' b =>
      rw [List.flatMap_cons, List.flatMap_cons, List.append_assoc, List.append_assoc] at h
      have same : c = c' := by
        unfold quoteChar at h
        split_ifs at h <;> simp_all
      obtain rfl := same
      obtain ⟨rfl, rest⟩ := ih (List.append_cancel_left h)
      exact ⟨rfl, rest⟩

theorem quoteChars_append_inj {a b r s : List Char} (hr : r.head? ≠ some d.quotes.closing)
    (hs : s.head? ≠ some d.quotes.closing) (h : d.quoteChars a ++ r = d.quoteChars b ++ s) :
    a = b ∧ r = s := by
  refine flatMap_quoteChar_append_inj hr hs ?_
  simpa [quoteChars] using h

end Dialect

namespace Sql

theorem replicate_append_inj {c : Char} {m n : Nat} {r s : List Char} (hr : r.head? ≠ some c)
    (hs : s.head? ≠ some c) (h : List.replicate m c ++ r = List.replicate n c ++ s) :
    m = n ∧ r = s := by
  induction m generalizing n with
  | zero =>
    cases n with
    | zero => exact ⟨rfl, h⟩
    | succ n => exact absurd (by rw [show r = _ from h]; rfl) hr
  | succ m ih =>
    cases n with
    | zero => exact absurd (by rw [show s = _ from h.symm]; rfl) hs
    | succ n =>
      obtain ⟨rfl, rest⟩ := ih (List.cons.inj h).2
      exact ⟨rfl, rest⟩

namespace Token

variable {d : Dialect} {t u : Token} {ts us : List Token}

def text (d : Dialect) (ts : List Token) : List Char :=
  ts.flatMap (chars d)

@[simp] theorem text_cons (d : Dialect) (t : Token) (ts : List Token) :
    text d (t :: ts) = t.chars d ++ text d ts :=
  List.flatMap_cons

/-- The words, marks and blanks that a statement is made of. -/
def marks : List Token :=
  [.select, .distinct, .from, .where, .groupBy, .innerJoin, .on, .as, .and].map keyword ++
    [Aggregate.sum, .count, .avg, .min, .max].map (call ·.function) ++
    ['.', ',', '(', ')', '='].map punct ++ [space]

/-- No word or mark begins with another. -/
theorem eq_of_mem_marks (ht : t ∈ marks) (hu : u ∈ marks) {r s : List Char}
    (h : t.chars d ++ r = u.chars d ++ s) : t = u := by
  have free : ∀ t ∈ marks, ∀ u ∈ marks, t.chars d <+: u.chars d → t = u := by
    cases d <;> decide +kernel
  rcases List.prefix_or_prefix_of_prefix (List.prefix_append _ r) (h ▸ List.prefix_append _ s) with
    shorter | longer
  · exact free t ht u hu shorter
  · exact (free u hu t ht longer).symm

/-- Words and marks begin neither like a name nor like an indentation, and blanks alone are blank. -/
theorem exists_chars_of_mem_marks (ht : t ∈ marks) : ∃ c cs, t.chars d = c :: cs ∧
    c ≠ d.quotes.opening ∧ c ≠ d.quotes.closing ∧ c ≠ '\n' ∧ (c = ' ' → t = space) := by
  have begins : ∀ t ∈ marks, (t.chars d).head?.any fun c => c ≠ d.quotes.opening ∧
      c ≠ d.quotes.closing ∧ c ≠ '\n' ∧ (c = ' ' → t = space) := by
    cases d <;> decide +kernel
  obtain ⟨c, head, fine⟩ := (Option.any_eq_true _ _).1 (begins t ht)
  obtain ⟨cs, eq⟩ := List.head?_eq_some_iff.1 head
  exact ⟨c, cs, eq, of_decide_eq_true fine⟩

/-! ## Tokens side by side -/

/-- The end of a token is known by what comes next. -/
def Fits : Token → Option Token → Prop
  | ident _, next => ∀ name, next ≠ some (ident name)
  | line _, next => next ≠ some space
  | t, _ => t ∈ marks

/-- Tokens that fit each other. A filter comes last. -/
inductive Spaced : List Token → Prop
  | nil : Spaced []
  | copied (text : String) : Spaced [keyword .where, space, verbatim text]
  | cons {t : Token} {ts : List Token} (fits : t.Fits ts.head?) (goes_on : t ≠ keyword .where)
      (rest : Spaced ts) : Spaced (t :: ts)

theorem Spaced.fits (spaced : Spaced (t :: ts)) : t.Fits ts.head? := by
  cases spaced with
  | copied => exact (by decide : keyword .where ∈ marks)
  | cons fits => exact fits

theorem Spaced.rest (spaced : Spaced (t :: ts)) (goes_on : t ≠ keyword .where) : Spaced ts := by
  cases spaced with
  | copied => exact absurd rfl goes_on
  | cons _ _ rest => exact rest

theorem Fits.cases {next : Option Token} (fits : t.Fits next) :
    t ∈ marks ∨ (∃ name, t = ident name ∧ ∀ other, next ≠ some (ident other)) ∨
      ∃ depth, t = line depth ∧ next ≠ some space := by
  cases t with
  | ident name => exact .inr (.inl ⟨name, rfl, fits⟩)
  | line depth => exact .inr (.inr ⟨depth, rfl, fits⟩)
  | _ => exact .inl fits

theorem Fits.chars_ne_nil {next : Option Token} (fits : t.Fits next) : t.chars d ≠ [] := by
  rcases fits.cases with mark | ⟨name, rfl, -⟩ | ⟨depth, rfl, -⟩
  · obtain ⟨c, cs, eq, -⟩ := exists_chars_of_mem_marks (d := d) mark
    exact eq ▸ List.cons_ne_nil c cs
  · exact List.cons_ne_nil _ _
  · exact List.cons_ne_nil _ _

/-- Where no name comes next, no closing delimiter does. -/
theorem Spaced.head_text_ne_closing (spaced : Spaced ts)
    (not_ident : ∀ name, ts.head? ≠ some (ident name)) :
    (text d ts).head? ≠ some d.quotes.closing := by
  cases ts with
  | nil => exact nofun
  | cons t ts =>
    rcases spaced.fits.cases with mark | ⟨name, rfl, -⟩ | ⟨depth, rfl, -⟩
    · obtain ⟨c, cs, eq, -, ne, -⟩ := exists_chars_of_mem_marks (d := d) mark
      simpa [eq] using ne
    · exact absurd rfl (not_ident name)
    · cases d <;> simp [chars, Dialect.quotes]

/-- Where no blank comes next, no blank does in the text. -/
theorem Spaced.head_text_ne_blank (spaced : Spaced ts) (not_space : ts.head? ≠ some space) :
    (text d ts).head? ≠ some ' ' := by
  cases ts with
  | nil => exact nofun
  | cons t ts =>
    rcases spaced.fits.cases with mark | ⟨name, rfl, -⟩ | ⟨depth, rfl, -⟩
    · obtain ⟨c, cs, eq, -, -, -, only⟩ := exists_chars_of_mem_marks (d := d) mark
      have ne : c ≠ ' ' := fun blank => not_space (congrArg some (only blank))
      simpa [eq] using ne
    · cases d <;> simp [chars, Dialect.quoteChars, Dialect.quotes]
    · simp [chars]

theorem opening_ne_newline : d.quotes.opening ≠ '\n' := by
  cases d <;> decide

/-- The first of spaced tokens is known by their text. -/
theorem Spaced.head_eq_of_text (hts : Spaced (t :: ts)) (hus : Spaced (u :: us))
    (h : text d (t :: ts) = text d (u :: us)) : t = u := by
  rw [text_cons, text_cons] at h
  rcases hts.fits.cases with mark | ⟨name, rfl, apart⟩ | ⟨depth, rfl, apart⟩ <;>
    rcases hus.fits.cases with mark' | ⟨name', rfl, apart'⟩ | ⟨depth', rfl, apart'⟩
  -- The three kinds of tokens begin differently.
  case inl.inl => exact eq_of_mem_marks mark mark' h
  case inl.inr.inl | inl.inr.inr =>
    obtain ⟨c, cs, eq, ne, -, ne', -⟩ := exists_chars_of_mem_marks (d := d) mark
    rw [eq] at h
    first | exact absurd (List.cons.inj h).1 ne | exact absurd (List.cons.inj h).1 ne'
  case inr.inl.inl | inr.inr.inl =>
    obtain ⟨c, cs, eq, ne, -, ne', -⟩ := exists_chars_of_mem_marks (d := d) mark'
    rw [eq] at h
    first | exact absurd (List.cons.inj h).1.symm ne | exact absurd (List.cons.inj h).1.symm ne'
  case inr.inl.inr.inr => exact absurd (List.cons.inj h).1 opening_ne_newline
  case inr.inr.inr.inl => exact absurd (List.cons.inj h).1.symm opening_ne_newline
  case inr.inl.inr.inl =>
    have rest := hts.rest nofun
    have rest' := hus.rest nofun
    have same := (Dialect.quoteChars_append_inj (rest.head_text_ne_closing apart)
      (rest'.head_text_ne_closing apart') h).1
    rw [String.toList_inj.1 same]
  case inr.inr.inr.inr =>
    have rest := hts.rest nofun
    have rest' := hus.rest nofun
    have same := (replicate_append_inj (rest.head_text_ne_blank apart)
      (rest'.head_text_ne_blank apart') (List.cons.inj h).2).1
    rw [Nat.eq_of_mul_eq_mul_left Nat.two_pos same]

theorem Spaced.text_ne_nil (spaced : Spaced (t :: ts)) : text d (t :: ts) ≠ [] := fun empty =>
  spaced.fits.chars_ne_nil (List.append_eq_nil_iff.1 (text_cons d t ts ▸ empty)).1

/-- Spaced tokens are known by their text. -/
theorem Spaced.eq_of_text (hts : Spaced ts) (hus : Spaced us) (h : text d ts = text d us) :
    ts = us := by
  induction ts generalizing us with
  | nil =>
    cases us with
    | nil => rfl
    | cons u us => exact absurd h.symm hus.text_ne_nil
  | cons t ts ih =>
    cases us with
    | nil => exact absurd h hts.text_ne_nil
    | cons u us =>
      obtain rfl := hts.head_eq_of_text hus h
      have same := List.append_cancel_left h
      by_cases last : t = keyword .where
      · -- What follows is a blank and the filter, copied.
        subst last
        cases hts with
        | cons _ goes_on => exact absurd rfl goes_on
        | copied copy =>
          cases hus with
          | cons _ goes_on => exact absurd rfl goes_on
          | copied copy' =>
            have same : copy.toList = copy'.toList := by simpa [text, chars] using same
            rw [String.toList_inj.1 same]
      · rw [ih (hts.rest last) (hus.rest last) same]

/-! ## Spacing of tokens -/

/-- Spaced tokens that a name may stand before. -/
def Apart (ts : List Token) : Prop :=
  Spaced ts ∧ ∀ name, ts.head? ≠ some (ident name)

@[simp] theorem spaced_keyword {word : Keyword} (goes_on : word ≠ .where) :
    Spaced (keyword word :: ts) ↔ Spaced ts := by
  have ne : keyword word ≠ keyword .where := fun eq => goes_on (keyword.inj eq)
  have known : keyword word ∈ marks := by cases word <;> decide
  exact ⟨fun spaced => spaced.rest ne, .cons known ne⟩

@[simp] theorem spaced_call (op : Aggregate) : Spaced (call op.function :: ts) ↔ Spaced ts := by
  have known : call op.function ∈ marks := by cases op <;> decide
  exact ⟨fun spaced => spaced.rest nofun, .cons known nofun⟩

@[simp] theorem spaced_punct {mark : Char} (mem : mark ∈ ['.', ',', '(', ')', '=']) :
    Spaced (punct mark :: ts) ↔ Spaced ts := by
  have all : ['.', ',', '(', ')', '='].all (punct · ∈ marks) := by decide
  have known : punct mark ∈ marks := of_decide_eq_true (List.all_eq_true.1 all mark mem)
  exact ⟨fun spaced => spaced.rest nofun, .cons known nofun⟩

@[simp] theorem spaced_space : Spaced (space :: ts) ↔ Spaced ts :=
  ⟨fun spaced => spaced.rest nofun, .cons (by decide : space ∈ marks) nofun⟩

@[simp] theorem spaced_ident {name : String} : Spaced (ident name :: ts) ↔ Apart ts :=
  ⟨fun spaced => ⟨spaced.rest nofun, spaced.fits⟩, fun apart => .cons apart.2 nofun apart.1⟩

@[simp] theorem spaced_line {depth : Nat} :
    Spaced (line depth :: ts) ↔ ts.head? ≠ some space ∧ Spaced ts :=
  ⟨fun spaced => ⟨spaced.fits, spaced.rest nofun⟩, fun h => .cons h.1 nofun h.2⟩

theorem apart_nil : Apart [] :=
  ⟨.nil, nofun⟩

@[simp] theorem apart_cons (not_ident : ∀ name, t ≠ ident name) : Apart (t :: ts) ↔ Spaced (t :: ts) :=
  and_iff_left fun name eq => not_ident name (Option.some.inj eq)

theorem apart_flatMap {α : Type} {f : α → List Token} {as : List α} (apart : Apart ts)
    (each : ∀ a ∈ as, ∀ rest, Apart rest → Apart (f a ++ rest)) : Apart (as.flatMap f ++ ts) := by
  induction as with
  | nil => exact apart
  | cons a as ih =>
    rw [List.forall_mem_cons] at each
    rw [List.flatMap_cons, List.append_assoc]
    exact each.1 _ (ih each.2)

end Token

end Sql

end Joinery
