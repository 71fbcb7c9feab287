import Joinery.Proofs.Request.Gathered
import Joinery.Proofs.Request.Packed

/-!
# Blanks around columns

Where blanks around the columns of an entry matter. Around the pieces they do not
(`QueryRequest.RespelledAs.sameAnswers`), and no column that is shown is empty or ends with a blank. The
table in front of a column is taken off a piece that is trimmed, and what is left is not trimmed again: a
blank behind the point becomes part of the name, and with a blank in front of the point nothing is taken off
(`splitColumns_around_point`). No other names begin with a blank (`untrimmed_iff`).
-/

namespace Joinery

open Text

/-! ## Names with blanks -/

section

variable {table column : String} {piece : List Char}

/-- A name is what stands behind its table, or all of a trimmed piece. -/
theorem columnIn_eq_iff : columnIn table piece = column ↔
    trimChars piece = ownBeginning table ++ column.toList ∨
      ¬ ownBeginning table <+: trimChars piece ∧ trimChars piece = column.toList := by
  rw [columnIn, ← String.toList_inj, String.toList_ofList]
  by_cases own : ownBeginning table <+: trimChars piece
  · obtain ⟨rest, eq⟩ := own
    simp [← eq, dropBeginning_append]
  · have no_own : trimChars piece ≠ ownBeginning table ++ column.toList := fun eq =>
      own ⟨column.toList, eq.symm⟩
    simp [dropBeginning_of_other own, own, no_own]

theorem isBlank_getLast?_columnIn {c : Char} (last : c ∈ (columnIn table piece).toList.getLast?) :
    isBlank c = false := by
  have last_of_piece : c ∈ (trimChars piece).getLast? := by
    rcases columnIn_eq_iff.1 rfl with own | ⟨-, all⟩
    · rw [own, List.getLast?_append, Option.mem_def.1 last]
      rfl
    · rwa [all]
  exact isBlank_getLast?_trimChars last_of_piece

/-- A name is not trimmed where a blank stands between it and its table. -/
theorem trim_columnIn_ne_iff (read : columnIn table piece = column) :
    trim column ≠ column ↔ trimChars piece = ownBeginning table ++ column.toList ∧
      ∃ c ∈ column.toList.head?, isBlank c = true := by
  rw [ne_eq, trim_eq_self_iff]
  constructor
  · intro untrimmed
    rcases columnIn_eq_iff.1 read with own | ⟨-, all⟩
    · refine ⟨own, ?_⟩
      by_contra none_blank
      refine untrimmed (trimChars_of_ends (fun c first => ?_) fun c last => ?_)
      · simpa using fun blank => none_blank ⟨c, first, blank⟩
      · exact isBlank_getLast?_columnIn (read ▸ last)
    · exact absurd (all ▸ trimChars_trimChars piece) untrimmed
  · rintro ⟨-, c, first, blank⟩ trimmed
    rw [← trimmed] at first
    exact absurd blank (by simp [isBlank_head?_trimChars first])

theorem mem_splitColumns_iff {text : String} : column ∈ splitColumns table text ↔
    column ≠ "" ∧ ∃ piece ∈ pieces columnSeparator.toList text.toList, columnIn table piece = column := by
  rw [splitColumns_eq, columnsIn, List.mem_filter, List.mem_map, and_comm]
  simp

/-- What is read where blanks stand around the point behind the table. -/
theorem splitColumns_around_point {gap gap' : List Char} (table_trimmed : trim table = table)
    (table_named : table ≠ "") (table_whole : IsWhole table.toList) (column_ok : IsListable table column)
    (blanks : IsBlanks gap) (blanks' : IsBlanks gap') :
    splitColumns table (String.ofList (table.toList ++ (gap ++ '.' :: gap') ++ column.toList)) =
      if gap = [] then [String.ofList (gap' ++ column.toList)]
      else [String.ofList (table.toList ++ (gap ++ '.' :: gap') ++ column.toList)] := by
  have in_point : ∀ c ∈ gap ++ '.' :: gap', isBlank c = true ∨ c = '.' := by
    intro c mem
    rcases List.mem_append.1 mem with mem | mem
    · exact .inl (blanks c mem)
    · exact (List.mem_cons.1 mem).symm.imp_left (blanks' c)
  have whole : IsWhole (table.toList ++ (gap ++ '.' :: gap') ++ column.toList) :=
    table_whole.around (by simp) (fun dollar => absurd (in_point _ dollar) (by decide))
      (fun ampersand => absurd (in_point _ ampersand) (by decide)) column_ok.whole
  have table_chars : trimChars table.toList = table.toList := trim_eq_self_iff.1 table_trimmed
  have trimmed := trimChars_append_of_trimmed table_chars (by simpa using table_named)
    column_ok.trimChars_eq column_ok.toList_ne_nil (gap ++ '.' :: gap')
  rw [splitColumns_eq, String.toList_ofList, columnsIn_of_isWhole whole, columnIn, trimmed]
  split_ifs with none_left
  · have own : table.toList ++ (gap ++ '.' :: gap') ++ column.toList =
        ownBeginning table ++ (gap' ++ column.toList) := by
      simp [none_left, toList_ownBeginning]
    rw [own, dropBeginning_append]
    simp [column_ok.nonempty]
  · have other : ¬ ownBeginning table <+: table.toList ++ (gap ++ '.' :: gap') ++ column.toList := by
      obtain ⟨c, rest, rfl⟩ := List.exists_cons_of_ne_nil none_left
      rw [toList_ownBeginning, List.append_assoc, List.prefix_append_right_inj, List.cons_append,
        List.cons_append, List.cons_prefix_cons]
      rintro ⟨rfl, -⟩
      exact absurd (blanks '.' List.mem_cons_self) (by decide)
    rw [dropBeginning_of_other other]
    simp

end

/-! ## Blanks behind the point -/

/-- A text of an entry of a table. -/
inductive QueryRequest.HasText (r : QueryRequest) (table text : String) : Prop
  | dimension {entry : DimensionEntry} (mem : entry ∈ r.dimensionData)
      (table_eq : trim entry.table = table) (text_eq : entry.columns = text) : HasText r table text
  | measure {entry : MeasureEntry} (mem : entry ∈ r.measureData)
      (table_eq : trim entry.table = table) (text_eq : entry.columns = text) : HasText r table text

/-- Somewhere in a request a column stands behind its table and the point, with a blank in between. -/
def QueryRequest.BlankBehindPoint (r : QueryRequest) (table column : String) : Prop :=
  ∃ text, r.HasText table text ∧ ∃ piece ∈ pieces columnSeparator.toList text.toList,
    trimChars piece = ownBeginning table ++ column.toList ∧ ∃ c ∈ column.toList.head?, isBlank c = true

/-- A table shows a column, as it is or aggregated. -/
def Selection.ShowsColumn (s : Selection) (table column : String) : Prop :=
  ∃ p ∈ s.tables, p.table = table ∧
    ((∃ d ∈ p.dimensions, d.column = column) ∨ ∃ m ∈ p.measures, m.column = column)

namespace Selection

variable {r : QueryRequest} {filter : Option FilterExpr} {s : Selection} {table column : String}

theorem showsColumn_iff (selected : ofRequest r filter = .ok s) : s.ShowsColumn table column ↔
    ∃ text, r.HasText table text ∧ column ∈ splitColumns table text := by
  obtain ⟨dimensions, measures, hd, hm, rfl⟩ := ofRequest_eq_ok_iff.1 selected
  rw [ShowsColumn, exists_shown_iff]
  simp only [mem_flatten_mapM_iff hd, mem_flatten_mapM_iff hm, DimensionEntry.columnsOf_eq_ok_iff,
    MeasureEntry.columnsOf_eq_ok_iff]
  constructor
  · rintro (⟨d, ⟨entry, mem, columns, lists, shown⟩, rfl⟩ |
      ⟨m, ⟨entry, mem, columns, lists, shown⟩, rfl⟩)
    · obtain ⟨column, listed, eq⟩ := List.mem_map.1 (lists.columns_eq ▸ shown)
      obtain ⟨rfl, rfl⟩ := Prod.mk.inj eq
      exact ⟨entry.columns, .dimension mem rfl rfl, listed⟩
    · obtain ⟨op, -, columns_eq⟩ := lists.columns_eq
      obtain ⟨column, listed, eq⟩ := List.mem_map.1 (columns_eq ▸ shown)
      obtain ⟨rfl, rfl⟩ := Prod.mk.inj eq
      exact ⟨entry.columns, .measure mem rfl rfl, listed⟩
  · rintro ⟨text, @⟨entry, mem, rfl, rfl⟩ | @⟨entry, mem, rfl, rfl⟩, listed⟩
    · obtain ⟨columns, -, read⟩ := exists_of_mem_of_mapM hd mem
      have lists := DimensionEntry.columnsOf_eq_ok_iff.1 read
      have shown : (trim entry.table, entry.shown column) ∈ columns :=
        lists.columns_eq ▸ List.mem_map_of_mem listed
      exact .inl ⟨_, ⟨entry, mem, columns, lists, shown⟩, rfl⟩
    · obtain ⟨columns, -, read⟩ := exists_of_mem_of_mapM hm mem
      have lists := MeasureEntry.columnsOf_eq_ok_iff.1 read
      obtain ⟨op, -, columns_eq⟩ := lists.columns_eq
      have shown : (trim entry.table, entry.shown op column) ∈ columns :=
        columns_eq ▸ List.mem_map_of_mem listed
      exact .inr ⟨_, ⟨entry, mem, columns, lists, shown⟩, rfl⟩

theorem untrimmed_iff (selected : ofRequest r filter = .ok s) :
    s.ShowsColumn table column ∧ trim column ≠ column ↔ r.BlankBehindPoint table column := by
  rw [showsColumn_iff selected]
  constructor
  · rintro ⟨⟨text, has, mem⟩, untrimmed⟩
    obtain ⟨-, piece, piece_mem, read⟩ := mem_splitColumns_iff.1 mem
    exact ⟨text, has, piece, piece_mem, (trim_columnIn_ne_iff read).1 untrimmed⟩
  · rintro ⟨text, has, piece, piece_mem, own, c, first, blank⟩
    have read : columnIn table piece = column := columnIn_eq_iff.2 (.inl own)
    refine ⟨⟨text, has, mem_splitColumns_iff.2 ⟨?_, piece, piece_mem, read⟩⟩,
      (trim_columnIn_ne_iff read).2 ⟨own, c, first, blank⟩⟩
    rintro rfl
    cases first

end Selection

/-! ## Blanks around pieces -/

/-- Two texts differ in the blanks around their pieces. -/
inductive Respelled : List Char → List Char → Prop
  | piece {piece front back front' back' : List Char} (whole : IsWhole piece)
      (front_blanks : IsBlanks front) (back_blanks : IsBlanks back)
      (front_blanks' : IsBlanks front') (back_blanks' : IsBlanks back') :
      Respelled (front ++ piece ++ back) (front' ++ piece ++ back')
  | append {cs cs' rest rest' : List Char} (first : Respelled cs cs') (later : Respelled rest rest') :
      Respelled (cs ++ (columnSeparator.toList ++ rest)) (cs' ++ (columnSeparator.toList ++ rest'))

theorem Respelled.columnsIn_eq {cs cs' : List Char} (h : Respelled cs cs') (table : String) :
    columnsIn table cs = columnsIn table cs' := by
  induction h with
  | piece whole front_blanks back_blanks front_blanks' back_blanks' =>
    rw [columnsIn_of_isWhole (whole.between_blanks front_blanks back_blanks),
      columnsIn_of_isWhole (whole.between_blanks front_blanks' back_blanks'),
      columnIn_between_blanks front_blanks back_blanks, columnIn_between_blanks front_blanks' back_blanks']
  | append _ _ ih ih' => rw [columnsIn_append, columnsIn_append, ih, ih']

/-- Two entries differ in blanks that do not matter. -/
structure DimensionEntry.RespelledAs (s s' : DimensionEntry) : Prop where
  table : trim s.table = trim s'.table
  columns : Respelled s.columns.toList s'.columns.toList
  aliasName : trim s.aliasName = trim s'.aliasName

/-- Two entries differ in blanks that do not matter. -/
structure MeasureEntry.RespelledAs (s s' : MeasureEntry) : Prop where
  table : trim s.table = trim s'.table
  columns : Respelled s.columns.toList s'.columns.toList
  operator : trim s.operator = trim s'.operator
  aliasName : trim s.aliasName = trim s'.aliasName

/-- Two requests differ in blanks that do not matter. -/
structure QueryRequest.RespelledAs (r r' : QueryRequest) : Prop where
  schemaName : r.schemaName = r'.schemaName
  dimensionData : List.Forall₂ DimensionEntry.RespelledAs r.dimensionData r'.dimensionData
  measureData : List.Forall₂ MeasureEntry.RespelledAs r.measureData r'.measureData
  conditionData : r.conditionData = r'.conditionData

theorem DimensionEntry.RespelledAs.columnsOf_eq {s s' : DimensionEntry} (h : s.RespelledAs s') :
    s.columnsOf = s'.columnsOf := by
  simp only [columnsOf, entryTable, entryColumns, splitColumns_eq, aliasFor, h.table, h.aliasName,
    h.columns.columnsIn_eq]

theorem MeasureEntry.RespelledAs.columnsOf_eq {s s' : MeasureEntry} (h : s.RespelledAs s') :
    s.columnsOf = s'.columnsOf := by
  simp only [columnsOf, entryTable, entryColumns, splitColumns_eq, aliasFor, Sql.Aggregate.ofName,
    h.table, h.operator, h.aliasName, h.columns.columnsIn_eq]

theorem QueryRequest.RespelledAs.sameAnswers {r r' : QueryRequest} (h : r.RespelledAs r') :
    r.SameAnswers r' := by
  refine sameAnswers_of_entries h.schemaName h.conditionData (congrArg _ ?_) (congrArg _ ?_)
  · exact mapM_congr_forall₂ (h.dimensionData.imp fun _ _ same => same.columnsOf_eq)
  · exact mapM_congr_forall₂ (h.measureData.imp fun _ _ same => same.columnsOf_eq)

namespace Selection

theorem nonempty_of_shown {r : QueryRequest} {filter : Option FilterExpr} {s : Selection}
    {table column : String} (selected : ofRequest r filter = .ok s) (shown : s.ShowsColumn table column) :
    column ≠ "" ∧ ∀ c ∈ column.toList.getLast?, isBlank c = false := by
  obtain ⟨text, -, mem⟩ := (showsColumn_iff selected).1 shown
  obtain ⟨nonempty, piece, -, rfl⟩ := mem_splitColumns_iff.1 mem
  exact ⟨nonempty, fun c last => isBlank_getLast?_columnIn last⟩

/-- Blanks matter only around the point behind the table of an entry. -/
theorem blanks_of_shown (r : QueryRequest) (filter : Option FilterExpr) (s : Selection)
    (selected : ofRequest r filter = .ok s) :
    (∀ table column, s.ShowsColumn table column →
      column ≠ "" ∧ ∀ c ∈ column.toList.getLast?, isBlank c = false) ∧
    (∀ table column,
      s.ShowsColumn table column ∧ trim column ≠ column ↔ r.BlankBehindPoint table column) ∧
    (∀ table column gap gap', trim table = table → table ≠ "" → IsWhole table.toList →
      IsListable table column → IsBlanks gap → IsBlanks gap' →
      splitColumns table (String.ofList (table.toList ++ (gap ++ '.' :: gap') ++ column.toList)) =
        if gap = [] then [String.ofList (gap' ++ column.toList)]
        else [String.ofList (table.toList ++ (gap ++ '.' :: gap') ++ column.toList)]) ∧
    ∀ r', r.RespelledAs r' → r.SameAnswers r' :=
  ⟨fun _ _ => nonempty_of_shown selected, fun _ _ => untrimmed_iff selected,
    fun _ _ _ _ => splitColumns_around_point, fun _ => QueryRequest.RespelledAs.sameAnswers⟩

/-- One column is spelled with blanks around it, behind the point, and in front of it. -/
theorem pupil_blanks_shown :
    let spelled (text : String) : QueryRequest := { dimensionData := [⟨"student", text, ""⟩] }
    ∃ s, ofRequest (spelled " student. name") none = .ok s ∧
      (s.ShowsColumn "student" " name" ∧ trim " name" ≠ " name" ↔
        (spelled " student. name").BlankBehindPoint "student" " name") ∧
      splitColumns "student" (String.ofList ("student".toList ++ ([' '] ++ '.' :: []) ++ "name".toList)) =
        [String.ofList ("student".toList ++ ([' '] ++ '.' :: []) ++ "name".toList)] ∧
      (spelled " student. name").SameAnswers (spelled "student. name ") := by
  intro spelled
  obtain ⟨s, selected⟩ : ∃ s, ofRequest (spelled " student. name") none = .ok s :=
    ⟨⟨[{ table := "student", dimensions := [⟨" name", " name"⟩] }], [⟨"student", " name"⟩]⟩,
      by decide +kernel⟩
  obtain ⟨-, behind, around, same⟩ := blanks_of_shown _ none s selected
  have none : IsBlanks [] := nofun
  have blank : IsBlanks [' '] := List.forall_mem_singleton.2 (by decide)
  have text : " student. name".toList = [' '] ++ "student. name".toList ++ [] := by decide
  have text' : "student. name ".toList = [] ++ "student. name".toList ++ [' '] := by decide
  have respelled : Respelled " student. name".toList "student. name ".toList := by
    rw [text, text']
    exact .piece (by decide) blank none none blank
  exact ⟨s, selected, behind "student" " name",
    around "student" "name" [' '] [] (by decide) (by decide) (by decide) (by decide) blank none,
    same _ ⟨rfl, .cons ⟨rfl, respelled, rfl⟩ .nil, .nil, rfl⟩⟩

/-- A blank behind the point is shown, and the same column is spelled in three ways that differ. -/
theorem point_blanks_show :
    let spelled (text : String) : QueryRequest := { dimensionData := [⟨"student", text, ""⟩] }
    (∃ s, ofRequest (spelled "student. name") none = .ok s ∧ s.ShowsColumn "student" " name" ∧
      trim " name" ≠ " name") ∧
    ofRequest (spelled "student. name") none ≠ ofRequest (spelled "student.name") none ∧
    ofRequest (spelled "student .name") none ≠ ofRequest (spelled "student.name") none := by
  refine ⟨⟨⟨[{ table := "student", dimensions := [⟨" name", " name"⟩] }], [⟨"student", " name"⟩]⟩,
    by decide +kernel, ?_, by decide +kernel⟩, by decide +kernel, by decide +kernel⟩
  exact ⟨_, List.mem_cons_self, rfl, .inl ⟨_, List.mem_cons_self, rfl⟩⟩

end Selection

end Joinery
