import Joinery.Request.Selection
import Joinery.Proofs.Text.Blank
import Joinery.Proofs.Text.Pieces

/-!
# Columns of an entry

The text of an entry is cut into pieces, each piece is trimmed, and then the table of the entry is taken off
its front (`columnIn`). `WritesColumns` says how columns are written so that they are read again: blanks may
stand around each, its table may stand in front of it, and pieces may hold nothing but blanks
(`WritesColumns.columnsIn_eq`).
-/

namespace Joinery

open Text

theorem toList_columnSeparator : columnSeparator.toList = ['$', '&'] := rfl

theorem isUnbordered_columnSeparator : IsUnbordered columnSeparator.toList :=
  isUnbordered_pair (by decide)

/-! ## Texts that hold no separator -/

/-- A text that is never cut. -/
def IsWhole (cs : List Char) : Prop :=
  ¬ columnSeparator.toList <:+: cs

instance (cs : List Char) : Decidable (IsWhole cs) :=
  inferInstanceAs (Decidable (¬ _))

theorem isWhole_append_iff {cs rest : List Char} : IsWhole (cs ++ rest) ↔
    IsWhole cs ∧ IsWhole rest ∧ ¬ (cs.getLast? = some '$' ∧ rest.head? = some '&') := by
  simp only [IsWhole, toList_columnSeparator, not_pair_infix_iff, List.isChain_append]
  refine and_congr_right fun _ => and_congr_right fun _ => ⟨fun apart both => ?_, fun apart => ?_⟩
  · exact apart '$' both.1 '&' both.2 ⟨rfl, rfl⟩
  · rintro c last d first ⟨rfl, rfl⟩
    exact apart ⟨last, first⟩

theorem isWhole_of_not_mem {cs : List Char} (no_dollar : '$' ∉ cs) : IsWhole cs := fun held =>
  no_dollar (held.subset (by rw [toList_columnSeparator]; simp))

theorem isWhole_of_blanks {gap : List Char} (blanks : IsBlanks gap) : IsWhole gap :=
  isWhole_of_not_mem fun dollar => absurd (blanks '$' dollar) (by decide)

/-- Blanks around a text do not complete a separator. -/
theorem IsWhole.between_blanks {cs front back : List Char} (whole : IsWhole cs)
    (front_blanks : IsBlanks front) (back_blanks : IsBlanks back) :
    IsWhole (front ++ cs ++ back) := by
  refine isWhole_append_iff.2 ⟨isWhole_append_iff.2 ⟨isWhole_of_blanks front_blanks, whole, ?_⟩,
    isWhole_of_blanks back_blanks, ?_⟩
  · rintro ⟨last, -⟩
    exact absurd (front_blanks '$' (List.mem_of_getLast? last)) (by decide)
  · rintro ⟨-, first⟩
    exact absurd (back_blanks '&' (List.mem_of_mem_head? first)) (by decide)

/-- A text between two others keeps a separator from being completed if it holds no part of one. -/
theorem IsWhole.around {cs mid rest : List Char} (whole : IsWhole cs) (ne : mid ≠ [])
    (no_dollar : '$' ∉ mid) (no_ampersand : '&' ∉ mid) (whole' : IsWhole rest) :
    IsWhole (cs ++ mid ++ rest) := by
  refine isWhole_append_iff.2
    ⟨isWhole_append_iff.2 ⟨whole, isWhole_of_not_mem no_dollar, ?_⟩, whole', ?_⟩
  · exact fun both => no_ampersand (List.mem_of_mem_head? both.2)
  · rintro ⟨last, -⟩
    rw [List.getLast?_append_of_ne_nil _ ne] at last
    exact no_dollar (List.mem_of_getLast? last)

theorem IsWhole.trim {text : String} (whole : IsWhole text.toList) : IsWhole (trim text).toList := by
  obtain ⟨front, back, -, -, eq⟩ := exists_eq_append_trimChars text.toList
  rw [toList_trim]
  exact fun held => whole (held.trans ⟨front, back, eq.symm⟩)

/-! ## Columns in pieces -/

/-- The table of an entry with a point behind it, as it may stand in front of a column. -/
def ownBeginning (table : String) : List Char :=
  (table ++ ".").toList

/-- The column that a piece of an entry names, or the empty name. -/
def columnIn (table : String) (piece : List Char) : String :=
  String.ofList (dropBeginning (ownBeginning table) (trimChars piece))

/-- The columns that are listed in the text of an entry. -/
def columnsIn (table : String) (cs : List Char) : List String :=
  ((pieces columnSeparator.toList cs).map (columnIn table)).filter (· ≠ "")

theorem splitColumns_eq (table columns : String) :
    splitColumns table columns = columnsIn table columns.toList := rfl

section

variable {table : String}

theorem toList_ownBeginning (table : String) : ownBeginning table = table.toList ++ ['.'] := by
  rw [ownBeginning, String.toList_append]
  rfl

theorem columnsIn_append (cs rest : List Char) :
    columnsIn table (cs ++ (columnSeparator.toList ++ rest)) =
      columnsIn table cs ++ columnsIn table rest := by
  rw [columnsIn, pieces_append_separator isUnbordered_columnSeparator, List.map_append,
    List.filter_append, columnsIn, columnsIn]

theorem columnsIn_of_isWhole {cs : List Char} (whole : IsWhole cs) :
    columnsIn table cs = [columnIn table cs].filter (· ≠ "") := by
  rw [columnsIn, pieces_of_not_infix whole, List.map_singleton]

theorem columnIn_between_blanks {front back : List Char} (front_blanks : IsBlanks front)
    (back_blanks : IsBlanks back) (cs : List Char) :
    columnIn table (front ++ cs ++ back) = columnIn table cs := by
  rw [columnIn, trimChars_append_gap back_blanks, trimChars_append front_blanks, columnIn]

theorem columnIn_of_blanks {gap : List Char} (blanks : IsBlanks gap) : columnIn table gap = "" := by
  have trimmed : trimChars gap = [] := by
    rw [← List.append_nil gap, trimChars_append blanks]
    rfl
  have other : ¬ ownBeginning table <+: [] := by simp [toList_ownBeginning]
  rw [columnIn, trimmed, dropBeginning_of_other other]

/-! ## Written columns -/

/-- A column that can be listed in an entry of a table: trimmed, not empty, without the separator, and
without the table in front. -/
structure IsListable (table column : String) : Prop where
  trimmed : trim column = column
  nonempty : column ≠ ""
  whole : IsWhole column.toList
  bare : ¬ ownBeginning table <+: column.toList

instance (table column : String) : Decidable (IsListable table column) :=
  decidable_of_iff (trim column = column ∧ column ≠ "" ∧ IsWhole column.toList ∧
      ¬ ownBeginning table <+: column.toList)
    ⟨fun ⟨trimmed, nonempty, whole, bare⟩ => ⟨trimmed, nonempty, whole, bare⟩,
      fun h => ⟨h.trimmed, h.nonempty, h.whole, h.bare⟩⟩

/-- A text is pieces with separators between them, and the columns are those in the pieces. -/
inductive WritesColumns (table : String) : List String → List Char → Prop
  | blank {gap : List Char} (blanks : IsBlanks gap) : WritesColumns table [] gap
  | bare {column : String} {front back : List Char} (front_blanks : IsBlanks front)
      (back_blanks : IsBlanks back) : WritesColumns table [column] (front ++ column.toList ++ back)
  | own {column : String} {front back : List Char} (front_blanks : IsBlanks front)
      (back_blanks : IsBlanks back) :
      WritesColumns table [column] (front ++ (table ++ "." ++ column).toList ++ back)
  | append {columns columns' : List String} {cs cs' : List Char} (pieces : WritesColumns table columns cs)
      (pieces' : WritesColumns table columns' cs') :
      WritesColumns table (columns ++ columns') (cs ++ (columnSeparator.toList ++ cs'))

namespace IsListable

variable {column : String}

theorem trimChars_eq (h : IsListable table column) : trimChars column.toList = column.toList :=
  trim_eq_self_iff.1 h.trimmed

theorem toList_ne_nil (h : IsListable table column) : column.toList ≠ [] := by
  simpa using h.nonempty

theorem columnIn_bare (h : IsListable table column) : columnIn table column.toList = column := by
  rw [columnIn, h.trimChars_eq, dropBeginning_of_other h.bare, String.ofList_toList]

theorem trimChars_own (h : IsListable table column) (trimmed : trim table = table) :
    trimChars (ownBeginning table ++ column.toList) = ownBeginning table ++ column.toList := by
  refine trimChars_of_ends (fun c first => ?_) (fun c last => ?_)
  · rw [toList_ownBeginning] at first
    cases start : table.toList with
    | nil =>
      rw [start] at first
      obtain rfl := Option.some.inj first
      rfl
    | cons d rest =>
      rw [start] at first
      obtain rfl := Option.some.inj first
      have head : (trimChars table.toList).head? = some d := by
        rw [← toList_trim, trimmed, start]
        rfl
      exact isBlank_head?_trimChars head
  · rw [List.getLast?_append_of_ne_nil _ h.toList_ne_nil, ← h.trimChars_eq] at last
    exact isBlank_getLast?_trimChars last

theorem columnIn_own (h : IsListable table column) (trimmed : trim table = table) :
    columnIn table (table ++ "." ++ column).toList = column := by
  have own : (table ++ "." ++ column).toList = ownBeginning table ++ column.toList := by
    rw [String.toList_append, ownBeginning]
  rw [own, columnIn, h.trimChars_own trimmed, dropBeginning_append, String.ofList_toList]

theorem isWhole_own (h : IsListable table column) (whole : IsWhole table.toList) :
    IsWhole (table ++ "." ++ column).toList := by
  rw [String.toList_append, String.toList_append]
  exact whole.around (by decide) (by decide) (by decide) h.whole

end IsListable

theorem WritesColumns.columnsIn_eq {columns : List String} {cs : List Char}
    (h : WritesColumns table columns cs) (trimmed : trim table = table) (whole : IsWhole table.toList)
    (listable : ∀ column ∈ columns, IsListable table column) : columnsIn table cs = columns := by
  induction h with
  | blank blanks =>
    rw [columnsIn_of_isWhole (isWhole_of_blanks blanks), columnIn_of_blanks blanks]
    rfl
  | @bare column front back front_blanks back_blanks =>
    have column_ok := listable column (List.mem_singleton_self column)
    rw [columnsIn_of_isWhole (column_ok.whole.between_blanks front_blanks back_blanks),
      columnIn_between_blanks front_blanks back_blanks, column_ok.columnIn_bare]
    simp [column_ok.nonempty]
  | @own column front back front_blanks back_blanks =>
    have column_ok := listable column (List.mem_singleton_self column)
    rw [columnsIn_of_isWhole ((column_ok.isWhole_own whole).between_blanks front_blanks back_blanks),
      columnIn_between_blanks front_blanks back_blanks, column_ok.columnIn_own trimmed]
    simp [column_ok.nonempty]
  | append _ _ ih ih' =>
    obtain ⟨listable, listable'⟩ := List.forall_mem_append.1 listable
    rw [columnsIn_append, ih listable, ih' listable']

end

end Joinery
