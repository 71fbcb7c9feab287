import Mathlib.Data.List.Chain
import Mathlib.Data.List.Infix
import Joinery.Text.Pieces

/-!
# Pieces of texts that were joined

Two occurrences of an unbordered separator never overlap, so it is found wherever it was put between two
texts, whatever these hold: `pieces_append_separator`. A text that does not hold the separator is one piece
(`pieces_of_not_infix`).
-/

namespace Joinery.Text

/-- No proper end of a separator is its beginning. -/
structure IsUnbordered (separator : List Char) : Prop where
  ne_nil : separator ≠ []
  borderless : ∀ front back, separator = front ++ back → front ≠ [] → back ≠ [] → ¬ back <+: separator

theorem isUnbordered_singleton (d : Char) : IsUnbordered [d] where
  ne_nil := List.cons_ne_nil d []
  borderless front back eq front_ne back_ne := by
    have length := congrArg List.length eq
    have front_length := List.length_pos_of_ne_nil front_ne
    have back_length := List.length_pos_of_ne_nil back_ne
    rw [List.length_append, List.length_singleton] at length
    omega

theorem isUnbordered_pair {c d : Char} (ne : c ≠ d) : IsUnbordered [c, d] where
  ne_nil := List.cons_ne_nil c [d]
  borderless front back eq front_ne back_ne := by
    obtain ⟨x, front, rfl⟩ := List.exists_cons_of_ne_nil front_ne
    obtain ⟨y, back, rfl⟩ := List.exists_cons_of_ne_nil back_ne
    cases front with
    | nil =>
      obtain ⟨-, rfl, -⟩ : c = x ∧ d = y ∧ [] = back := by simpa using eq
      rw [List.cons_prefix_cons]
      exact fun same => ne same.1.symm
    | cons z front =>
      have length := congrArg List.length eq
      simp only [List.cons_append, List.length_cons, List.length_append, List.length_nil] at length
      omega

section Pieces

variable {separator : List Char}

theorem piecesAfter_eq (skip : Nat) (cs : List Char) :
    piecesAfter separator skip cs = pieces separator (cs.drop skip) := by
  induction skip generalizing cs with
  | zero => rfl
  | succ skip ih =>
    cases cs with
    | nil => simp [pieces, piecesAfter]
    | cons c cs => exact ih cs

theorem pieces_nil : pieces separator [] = [[]] := by
  rw [pieces, piecesAfter]

theorem pieces_separator_append (ne : separator ≠ []) (rest : List Char) :
    pieces separator (separator ++ rest) = [] :: pieces separator rest := by
  obtain ⟨c, more, rfl⟩ := List.exists_cons_of_ne_nil ne
  have found : (c :: more).isPrefixOf (c :: (more ++ rest)) = true :=
    List.isPrefixOf_iff_prefix.2 (List.prefix_append (c :: more) rest)
  rw [List.cons_append, pieces, piecesAfter, if_pos found, piecesAfter_eq, List.length_cons,
    Nat.add_sub_cancel, List.drop_left]

theorem pieces_cons_of_other {c : Char} {cs : List Char} (other : ¬ separator <+: c :: cs) :
    pieces separator (c :: cs) = consHead c (pieces separator cs) := by
  rw [pieces, piecesAfter, if_neg (mt List.isPrefixOf_iff_prefix.1 other), pieces]

theorem exists_pieces_eq_cons (separator cs : List Char) :
    ∃ piece rest, pieces separator cs = piece :: rest := by
  cases cs with
  | nil => exact ⟨[], [], pieces_nil⟩
  | cons c cs =>
    rw [pieces, piecesAfter]
    split_ifs
    · exact ⟨_, _, rfl⟩
    · cases piecesAfter separator 0 cs with
      | nil | cons => exact ⟨_, _, rfl⟩

/-- In front of an unbordered separator no other occurrence of it begins that was not there before. -/
theorem IsUnbordered.isPrefix_of_append (h : IsUnbordered separator) {cs rest : List Char}
    (ne : cs ≠ []) (found : separator <+: cs ++ (separator ++ rest)) : separator <+: cs := by
  rcases List.prefix_or_prefix_of_prefix found (List.prefix_append cs _) with short | ⟨back, rfl⟩
  · exact short
  · by_cases none_left : back = []
    · rw [none_left, List.append_nil]
    · have overlap : back <+: cs ++ back ++ rest := (List.prefix_append_right_inj cs).1 found
      have shorter : back.length ≤ (cs ++ back).length := by
        rw [List.length_append]
        exact Nat.le_add_left _ _
      exact absurd (List.prefix_of_prefix_length_le overlap (List.prefix_append _ rest) shorter)
        (h.borderless cs back rfl ne none_left)

theorem pieces_append_separator (h : IsUnbordered separator) (cs rest : List Char) :
    pieces separator (cs ++ (separator ++ rest)) = pieces separator cs ++ pieces separator rest := by
  cases cs with
  | nil =>
    rw [List.nil_append, pieces_separator_append h.ne_nil, pieces_nil, List.singleton_append]
  | cons c cs =>
    by_cases found : separator <+: c :: cs
    · obtain ⟨more, eq⟩ := found
      have shorter : more.length < (c :: cs).length := by
        rw [← eq, List.length_append]
        exact Nat.lt_add_of_pos_left (List.length_pos_of_ne_nil h.ne_nil)
      rw [← eq, List.append_assoc, pieces_separator_append h.ne_nil, pieces_separator_append h.ne_nil,
        pieces_append_separator h more rest, List.cons_append]
    · have not_later : ¬ separator <+: c :: (cs ++ (separator ++ rest)) :=
        mt (h.isPrefix_of_append (List.cons_ne_nil c cs)) found
      rw [pieces_cons_of_other found, List.cons_append, pieces_cons_of_other not_later,
        pieces_append_separator h cs rest]
      obtain ⟨piece, more, eq⟩ := exists_pieces_eq_cons separator cs
      rw [eq]
      rfl
termination_by cs.length
decreasing_by
  · exact shorter
  · exact Nat.lt_succ_self cs.length

theorem pieces_of_not_infix {cs : List Char} (whole : ¬ separator <:+: cs) :
    pieces separator cs = [cs] := by
  induction cs with
  | nil => exact pieces_nil
  | cons c cs ih =>
    rw [List.infix_cons_iff, not_or] at whole
    rw [pieces_cons_of_other whole.1, ih whole.2]
    rfl

end Pieces

/-! ## Texts without a separator of two characters -/

theorem not_pair_infix_iff {c d : Char} {cs : List Char} :
    ¬ [c, d] <:+: cs ↔ cs.IsChain fun a b => ¬ (a = c ∧ b = d) := by
  induction cs with
  | nil => simp
  | cons a cs ih =>
    rw [List.infix_cons_iff, not_or, ih]
    cases cs with
    | nil => simp
    | cons b cs =>
      rw [List.isChain_cons_cons, List.cons_prefix_cons, List.cons_prefix_cons]
      simp [eq_comm]

/-! ## Beginnings -/

theorem dropBeginning_append (beginning cs : List Char) :
    dropBeginning beginning (beginning ++ cs) = cs := by
  rw [dropBeginning, List.isPrefixOf?_eq_some_iff_append_eq.2 rfl, Option.getD_some]

theorem dropBeginning_of_other {beginning cs : List Char} (other : ¬ beginning <+: cs) :
    dropBeginning beginning cs = cs := by
  unfold dropBeginning
  cases found : beginning.isPrefixOf? cs with
  | none => rfl
  | some rest => exact absurd ⟨rest, List.isPrefixOf?_eq_some_iff_append_eq.1 found⟩ other

end Joinery.Text
