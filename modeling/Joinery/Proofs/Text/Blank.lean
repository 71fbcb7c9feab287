import Mathlib.Data.List.DropRight
import Joinery.Text.Blank

/-!
# Trimmed texts

A trimmed text is trimmed already (`trim_trim`), and blank only if the text was (`isBlankText_trim`). It is what stands
between the blanks at the ends of a text.
-/

namespace Joinery

namespace Text

theorem trimChars_eq (cs : List Char) :
    trimChars cs = (cs.dropWhile isBlank).rdropWhile isBlank := rfl

/-- What is left at the front does not change by taking off the blanks at the end. -/
theorem dropWhile_trimChars (cs : List Char) : (trimChars cs).dropWhile isBlank = trimChars cs := by
  rw [trimChars_eq]
  cases kept : (cs.dropWhile isBlank).rdropWhile isBlank with
  | nil => rfl
  | cons c rest =>
    have front : c :: rest <+: cs.dropWhile isBlank := kept ▸ List.rdropWhile_prefix isBlank _
    obtain ⟨more, eq⟩ := front
    have shown := List.head?_dropWhile_not isBlank cs
    rw [← eq, List.cons_append, List.head?_cons] at shown
    rw [List.dropWhile_cons, if_neg (by simpa using shown)]

theorem trimChars_trimChars (cs : List Char) : trimChars (trimChars cs) = trimChars cs := by
  rw [trimChars_eq (trimChars cs), dropWhile_trimChars, trimChars_eq]
  exact List.rdropWhile_idempotent isBlank _

theorem trim_trim (s : String) : trim (trim s) = trim s := by
  rw [trim, trim, String.toList_ofList, trimChars_trimChars]

theorem isBlankText_trim (s : String) : isBlankText (trim s) = isBlankText s := by
  rw [Bool.eq_iff_iff, isBlankText, isBlankText, trim, String.toList_ofList, List.all_eq_true,
    List.all_eq_true]
  constructor
  · intro blank
    have none_left : trimChars s.toList = [] := by
      rw [← dropWhile_trimChars, List.dropWhile_eq_nil_iff]
      exact blank
    rw [trimChars_eq, List.rdropWhile_eq_nil_iff, ← List.dropWhile_eq_nil_iff,
      List.dropWhile_idempotent, List.dropWhile_eq_nil_iff] at none_left
    exact none_left
  · intro blank c mem
    rw [trimChars_eq] at mem
    exact blank c ((List.dropWhile_sublist isBlank).subset ((List.rdropWhile_prefix isBlank _).subset mem))

/-! ## Ends of trimmed texts -/

theorem isBlank_head?_trimChars {cs : List Char} {c : Char} (first : c ∈ (trimChars cs).head?) :
    isBlank c = false := by
  have shown := List.head?_dropWhile_not isBlank (trimChars cs)
  rw [dropWhile_trimChars, Option.mem_def.1 first] at shown
  exact shown

theorem isBlank_getLast?_trimChars {cs : List Char} {c : Char}
    (last : c ∈ (trimChars cs).getLast?) : isBlank c = false := by
  rw [trimChars_eq] at last
  obtain ⟨ne, rfl⟩ := List.mem_getLast?_eq_getLast last
  simpa using List.rdropWhile_last_not isBlank (cs.dropWhile isBlank) ne

/-- A text without a blank at its ends is trimmed. -/
theorem trimChars_of_ends {cs : List Char} (first : ∀ c ∈ cs.head?, isBlank c = false)
    (last : ∀ c ∈ cs.getLast?, isBlank c = false) : trimChars cs = cs := by
  have front : cs.dropWhile isBlank = cs := by
    cases cs with
    | nil => rfl
    | cons c cs => exact List.dropWhile_cons_of_neg (by simp [first c rfl])
  rw [trimChars_eq, front, List.rdropWhile_eq_self_iff]
  intro ne
  simp [last _ (List.getLast?_eq_some_getLast ne)]

theorem toList_trim (s : String) : (trim s).toList = trimChars s.toList :=
  String.toList_ofList

theorem trim_eq_self_iff {s : String} : trim s = s ↔ trimChars s.toList = s.toList := by
  rw [← String.toList_inj, toList_trim]

theorem isBlankText_of_trimmed {s : String} (trimmed : trim s = s) (ne : s.toList ≠ []) : isBlankText s = false := by
  obtain ⟨c, cs, eq⟩ := List.exists_cons_of_ne_nil ne
  have first : c ∈ (trimChars s.toList).head? := by
    rw [trim_eq_self_iff.1 trimmed, eq]
    rfl
  have seen : isBlank c = false := isBlank_head?_trimChars first
  rw [isBlankText, eq, List.all_cons, seen, Bool.false_and]

/-- A text that ends as two trimmed texts do is trimmed. -/
theorem trimChars_append_of_trimmed {cs cs' : List Char} (trimmed : trimChars cs = cs) (ne : cs ≠ [])
    (trimmed' : trimChars cs' = cs') (ne' : cs' ≠ []) (between : List Char) :
    trimChars (cs ++ between ++ cs') = cs ++ between ++ cs' := by
  refine trimChars_of_ends (fun c first => ?_) (fun c last => ?_)
  · rw [List.append_assoc, List.head?_append_of_ne_nil _ ne, ← trimmed] at first
    exact isBlank_head?_trimChars first
  · rw [List.getLast?_append_of_ne_nil _ ne', ← trimmed'] at last
    exact isBlank_getLast?_trimChars last

/-! ## Blanks at the ends -/

/-- Nothing but blanks. -/
def IsBlanks (cs : List Char) : Prop :=
  ∀ c ∈ cs, isBlank c = true

theorem trimChars_cons {c : Char} (blank : isBlank c = true) (cs : List Char) :
    trimChars (c :: cs) = trimChars cs := by
  rw [trimChars, List.dropWhile_cons_of_pos blank, trimChars]

theorem trimChars_concat {c : Char} (blank : isBlank c = true) (cs : List Char) :
    trimChars (cs ++ [c]) = trimChars cs := by
  rw [trimChars_eq, trimChars_eq, List.dropWhile_append]
  cases left : cs.dropWhile isBlank with
  | nil => simp [blank]
  | cons first rest => exact List.rdropWhile_concat_pos _ _ _ blank

theorem trimChars_append {gap : List Char} (blanks : IsBlanks gap) (cs : List Char) :
    trimChars (gap ++ cs) = trimChars cs := by
  induction gap with
  | nil => rfl
  | cons c gap ih =>
    obtain ⟨blank, blanks⟩ := List.forall_mem_cons.1 blanks
    rw [List.cons_append, trimChars_cons blank, ih blanks]

theorem trimChars_append_gap {gap : List Char} (blanks : IsBlanks gap) (cs : List Char) :
    trimChars (cs ++ gap) = trimChars cs := by
  induction gap generalizing cs with
  | nil => rw [List.append_nil]
  | cons c gap ih =>
    obtain ⟨blank, blanks⟩ := List.forall_mem_cons.1 blanks
    rw [List.append_cons, ih blanks, trimChars_concat blank]

/-- A text is its trimmed form between blanks. -/
theorem exists_eq_append_trimChars (cs : List Char) :
    ∃ front back, IsBlanks front ∧ IsBlanks back ∧ cs = front ++ trimChars cs ++ back := by
  refine ⟨cs.takeWhile isBlank, (cs.dropWhile isBlank).rtakeWhile isBlank, ?_, ?_, ?_⟩
  · exact fun c mem => List.mem_takeWhile_imp mem
  · exact fun c mem => List.mem_rtakeWhile_imp mem
  · rw [trimChars_eq, List.append_assoc, List.rdropWhile_append_rtakeWhile,
      List.takeWhile_append_dropWhile]

theorem dropWhile_concat {c : Char} (seen : isBlank c = false) (cs : List Char) :
    (cs ++ [c]).dropWhile isBlank = cs.dropWhile isBlank ++ [c] := by
  rw [List.dropWhile_append]
  cases cs.dropWhile isBlank with
  | nil => simp [seen]
  | cons => rfl

theorem trimChars_concat_of_seen {c : Char} (seen : isBlank c = false) (cs : List Char) :
    trimChars (cs ++ [c]) = cs.dropWhile isBlank ++ [c] := by
  rw [trimChars_eq, dropWhile_concat seen, List.rdropWhile_concat_neg _ _ _ (by simp [seen])]

theorem trimChars_between {first last : Char} (first_seen : isBlank first = false)
    (last_seen : isBlank last = false) (cs : List Char) :
    trimChars (first :: cs ++ [last]) = first :: cs ++ [last] := by
  rw [trimChars_concat_of_seen last_seen, List.dropWhile_cons_of_neg (by simp [first_seen])]

end Text

end Joinery
