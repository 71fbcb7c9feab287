import Joinery.Link
import Joinery.Proofs.Text.Blank
import Joinery.Proofs.Text.Pieces

/-!
# Lists of columns in one text

`WritesPieces` says how a list of columns is written between delimiters: blanks may stand around the names,
and pieces may hold nothing but blanks. `DelimitedColumns` adds the pair of parentheses that may stand around
all of it. What is written so is what is read: `DelimitedColumns.columnList_eq`. Blanks at the ends make no
difference to the names (`namesIn_trimChars`), whether they belong to a piece or to the whole text.
-/

namespace Joinery

open Text

/-! ## Pieces between delimiters -/

section Pieces

variable (d : Char)

theorem pieces_delimiter (cs : List Char) : pieces [d] (d :: cs) = [] :: pieces [d] cs :=
  pieces_separator_append (List.cons_ne_nil d []) cs

variable {d}

theorem pieces_cons {c : Char} (other : c ≠ d) (cs : List Char) :
    pieces [d] (c :: cs) = consHead c (pieces [d] cs) :=
  pieces_cons_of_other (by simp [other.symm])

theorem pieces_append (cs rest : List Char) :
    pieces [d] (cs ++ d :: rest) = pieces [d] cs ++ pieces [d] rest :=
  pieces_append_separator (isUnbordered_singleton d) cs rest

/-- A further character at the end belongs to the last piece. -/
theorem exists_pieces_concat (cs : List Char) : ∃ init last, pieces [d] cs = init ++ [last] ∧
    ∀ c ≠ d, pieces [d] (cs ++ [c]) = init ++ [last ++ [c]] := by
  induction cs with
  | nil => exact ⟨[], [], rfl, fun c other => by rw [List.nil_append, pieces_cons other]; rfl⟩
  | cons c cs ih =>
    obtain ⟨init, last, eq, eq'⟩ := ih
    by_cases delimiter : c = d
    · refine ⟨[] :: init, last, by rw [delimiter, pieces_delimiter, eq]; rfl, fun c' other => ?_⟩
      rw [delimiter, List.cons_append, pieces_delimiter, eq' c' other]
      rfl
    · rw [pieces_cons delimiter, eq]
      cases init with
      | nil =>
        refine ⟨[], c :: last, rfl, fun c' other => ?_⟩
        rw [List.cons_append, pieces_cons delimiter, eq' c' other]
        rfl
      | cons first init =>
        refine ⟨(c :: first) :: init, last, rfl, fun c' other => ?_⟩
        rw [List.cons_append, pieces_cons delimiter, eq' c' other]
        rfl

theorem pieces_of_notMem {cs : List Char} (undelimited : d ∉ cs) : pieces [d] cs = [cs] :=
  pieces_of_not_infix (mt (List.singleton_infix_iff d cs).1 undelimited)

end Pieces

/-! ## Names in pieces -/

theorem columnNames_append (names names' : List String) :
    columnNames (names ++ names') = columnNames names ++ columnNames names' := by
  rw [columnNames, List.map_append, List.filter_append, columnNames, columnNames]

theorem columnNames_cons {name : String} (some_name : trim name ≠ "") (names : List String) :
    columnNames (name :: names) = trim name :: columnNames names := by
  rw [columnNames, List.map_cons, List.filter_cons_of_pos (by simpa using some_name), columnNames]

/-- The names between delimiters. -/
def namesIn (d : Char) (cs : List Char) : List String :=
  columnNames ((pieces [d] cs).map String.ofList)

section Names

variable {d : Char}

theorem namesIn_append (cs rest : List Char) :
    namesIn d (cs ++ d :: rest) = namesIn d cs ++ namesIn d rest := by
  rw [namesIn, pieces_append, List.map_append, columnNames_append, namesIn, namesIn]

theorem namesIn_nil : namesIn d [] = [] := by
  rw [namesIn]
  rfl

theorem columnNames_cons_congr {name name' : String} (same : trim name = trim name')
    (names : List String) : columnNames (name :: names) = columnNames (name' :: names) := by
  rw [columnNames, List.map_cons, same, columnNames, List.map_cons]

theorem namesIn_cons {c : Char} (blank : isBlank c = true) (cs : List Char) :
    namesIn d (c :: cs) = namesIn d cs := by
  by_cases delimiter : c = d
  · rw [delimiter]
    exact (namesIn_append [] cs).trans (by rw [namesIn_nil, List.nil_append])
  · obtain ⟨piece, rest, eq⟩ := exists_pieces_eq_cons [d] cs
    rw [namesIn, pieces_cons delimiter, namesIn, eq]
    refine columnNames_cons_congr ?_ _
    rw [trim, trim, String.toList_ofList, String.toList_ofList, trimChars_cons blank]

theorem namesIn_concat {c : Char} (blank : isBlank c = true) (cs : List Char) :
    namesIn d (cs ++ [c]) = namesIn d cs := by
  by_cases delimiter : c = d
  · rw [delimiter, namesIn_append, namesIn_nil, List.append_nil]
  · obtain ⟨init, last, eq, eq'⟩ := exists_pieces_concat (d := d) cs
    rw [namesIn, eq' c delimiter, namesIn, eq, List.map_append, List.map_append, columnNames_append,
      columnNames_append]
    refine congrArg _ (columnNames_cons_congr ?_ _)
    rw [trim, trim, String.toList_ofList, String.toList_ofList, trimChars_concat blank]

theorem namesIn_append_left {gap : List Char} (blanks : IsBlanks gap) (cs : List Char) :
    namesIn d (gap ++ cs) = namesIn d cs := by
  induction gap with
  | nil => rfl
  | cons c gap ih =>
    obtain ⟨blank, blanks⟩ := List.forall_mem_cons.1 blanks
    rw [List.cons_append, namesIn_cons blank, ih blanks]

theorem namesIn_append_right {gap : List Char} (blanks : IsBlanks gap) (cs : List Char) :
    namesIn d (cs ++ gap) = namesIn d cs := by
  induction gap generalizing cs with
  | nil => rw [List.append_nil]
  | cons c gap ih =>
    obtain ⟨blank, blanks⟩ := List.forall_mem_cons.1 blanks
    rw [List.append_cons, ih blanks, namesIn_concat blank]

/-- Blanks at the ends make no difference to the names. -/
theorem namesIn_trimChars (cs : List Char) : namesIn d (trimChars cs) = namesIn d cs := by
  obtain ⟨front, back, front_blanks, back_blanks, eq⟩ := exists_eq_append_trimChars cs
  calc namesIn d (trimChars cs) = namesIn d (front ++ trimChars cs) := (namesIn_append_left front_blanks _).symm
    _ = namesIn d (front ++ trimChars cs ++ back) := (namesIn_append_right back_blanks _).symm
    _ = namesIn d cs := by rw [← eq]

end Names

/-! ## Written lists -/

/-- A name that can stand in a list with a delimiter: trimmed, not empty and without the delimiter. -/
structure IsColumnName (d : Char) (name : String) : Prop where
  trimmed : trim name = name
  nonempty : name ≠ ""
  undelimited : d ∉ name.toList

/-- Characters are pieces with delimiters between them, and the names are those in the pieces. -/
inductive WritesPieces (d : Char) : List String → List Char → Prop
  | blank {gap : List Char} (blanks : IsBlanks gap) : WritesPieces d [] gap
  | name {name : String} {front back : List Char} (front_blanks : IsBlanks front)
      (back_blanks : IsBlanks back) : WritesPieces d [name] (front ++ name.toList ++ back)
  | append {names names' : List String} {cs cs' : List Char} (pieces : WritesPieces d names cs)
      (pieces' : WritesPieces d names' cs') : WritesPieces d (names ++ names') (cs ++ d :: cs')

/-- Parentheses enclose the text, which may be trimmed before. -/
def IsEnclosed (cs : List Char) : Prop :=
  (trimChars cs).head? = some '(' ∧ (trimChars cs).getLast? = some ')'

instance (cs : List Char) : Decidable (IsEnclosed cs) :=
  inferInstanceAs (Decidable (_ ∧ _))

/-- A text is a list of columns with delimiters between them, and perhaps with parentheses around it. -/
inductive DelimitedColumns (d : Char) : List String → List Char → Prop
  | bare {names : List String} {cs : List Char} (pieces : WritesPieces d names cs)
      (not_enclosed : ¬ IsEnclosed cs) : DelimitedColumns d names cs
  | enclosed {names : List String} {front cs back : List Char} (front_blanks : IsBlanks front)
      (pieces : WritesPieces d names cs) (back_blanks : IsBlanks back) :
      DelimitedColumns d names (front ++ ('(' :: cs ++ [')']) ++ back)

theorem WritesPieces.namesIn_eq {d : Char} {names : List String} {cs : List Char}
    (h : WritesPieces d names cs) (plain : ∀ name ∈ names, IsColumnName d name) :
    namesIn d cs = names := by
  induction h with
  | @blank gap blanks => simpa [namesIn_nil] using namesIn_append_left (d := d) blanks []
  | @name name front back front_blanks back_blanks =>
    have is_name := plain name (List.mem_singleton_self name)
    rw [namesIn_append_right back_blanks, namesIn_append_left front_blanks, namesIn,
      pieces_of_notMem is_name.undelimited, List.map_singleton, String.ofList_toList]
    simp [columnNames, is_name.trimmed, is_name.nonempty]
  | append _ _ ih ih' =>
    obtain ⟨plain, plain'⟩ := List.forall_mem_append.1 plain
    rw [namesIn_append, ih plain, ih' plain']

theorem withoutParentheses_enclosed (cs : List Char) : withoutParentheses ('(' :: cs ++ [')']) = cs := by
  change (if (cs ++ [')']).getLast? = some ')' then (cs ++ [')']).dropLast else _) = cs
  rw [List.getLast?_concat, if_pos rfl, List.dropLast_concat]

theorem withoutParentheses_of_not {cs : List Char}
    (bare : ¬ (cs.head? = some '(' ∧ cs.getLast? = some ')')) : withoutParentheses cs = cs := by
  unfold withoutParentheses
  split
  · next rest =>
    refine if_neg fun closed => bare ⟨rfl, ?_⟩
    rw [List.getLast?_cons, closed]
    rfl
  · rfl

theorem columnList_singleton (d : Char) (text : String) :
    columnList text (String.singleton d) = namesIn d (withoutParentheses (trimChars text.toList)) := by
  have separator : String.singleton d ≠ "" := by simp
  simp only [columnList, if_neg separator, String.toList_singleton, namesIn]

/-- The columns are read as they are written. -/
theorem DelimitedColumns.columnList_eq {d : Char} {names : List String} {text : String}
    (h : DelimitedColumns d names text.toList) (plain : ∀ name ∈ names, IsColumnName d name) :
    columnList text (String.singleton d) = names := by
  rw [columnList_singleton]
  generalize text.toList = cs at h
  cases h with
  | bare pieces not_enclosed =>
    rw [withoutParentheses_of_not not_enclosed, namesIn_trimChars]
    exact pieces.namesIn_eq plain
  | enclosed front_blanks pieces back_blanks =>
    rw [trimChars_append_gap back_blanks, trimChars_append front_blanks,
      trimChars_between (by decide) (by decide), withoutParentheses_enclosed]
    exact pieces.namesIn_eq plain

end Joinery
