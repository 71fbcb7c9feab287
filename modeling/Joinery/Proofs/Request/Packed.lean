import Joinery.Compile
import Joinery.Proofs.Outcome
import Joinery.Proofs.Request.Columns
import Joinery.Proofs.Request.Selection

/-!
# Entries of several columns

An entry that lists several columns stands for as many entries of one column each (`unpacked`), wherever it
stands in a request: `unpacked_same_answers`. A name that is given to all of them goes with each column, so
that the entries of one column have to be given the names that come of it (`unpackedAlias`).
-/

namespace Joinery

open Text

/-- The text of an entry of a table lists some columns, and these can be taken apart. -/
structure Packs (table columns : String) (names : List String) : Prop where
  whole : IsWhole table.toList
  ne_nil : names ≠ []
  listable : ∀ name ∈ names, IsListable (trim table) name
  writes : WritesColumns (trim table) names columns.toList

/-- What one of several columns is called where a name is given to all of them. -/
def unpackedAlias (aliasName : String) (names : List String) (name : String) : String :=
  if trim aliasName ≠ "" ∧ 2 ≤ names.length then trim aliasName ++ "_" ++ name else aliasName

/-- An entry for each column. -/
def DimensionEntry.unpacked (s : DimensionEntry) (names : List String) : List DimensionEntry :=
  names.map fun name =>
    { s with columns := name, aliasName := unpackedAlias s.aliasName names name }

/-- An entry for each column. -/
def MeasureEntry.unpacked (s : MeasureEntry) (names : List String) : List MeasureEntry :=
  names.map fun name =>
    { s with columns := name, aliasName := unpackedAlias s.aliasName names name }

/-- Two requests select the same and get the same answers, or the same errors. -/
structure QueryRequest.SameAnswers (r r' : QueryRequest) : Prop where
  selections : ∀ filter, Selection.ofRequest r filter = Selection.ofRequest r' filter
  answers : ∀ target links, compile target links r = compile target links r'

/-! ## Columns and names -/

namespace Packs

variable {table columns : String} {names : List String}

theorem splitColumns_eq (h : Packs table columns names) : splitColumns (trim table) columns = names :=
  h.writes.columnsIn_eq (trim_trim table) h.whole.trim h.listable

/-- A column packs itself. -/
theorem single (h : Packs table columns names) {name : String} (mem : name ∈ names) :
    Packs table name [name] where
  whole := h.whole
  ne_nil := List.cons_ne_nil name []
  listable := by simpa using h.listable name mem
  writes := by
    have written : WritesColumns (trim table) [name] ([] ++ name.toList ++ []) :=
      .bare nofun nofun
    simpa using written

theorem trim_unpackedAlias {name aliasName : String} (listable : IsListable table name)
    (given : trim aliasName ≠ "") : trim (trim aliasName ++ "_" ++ name) = trim aliasName ++ "_" ++ name := by
  rw [trim, String.toList_append, String.toList_append, toList_trim,
    trimChars_append_of_trimmed (trimChars_trimChars _) _ listable.trimChars_eq listable.toList_ne_nil,
    ← toList_trim, ← String.toList_append, ← String.toList_append, String.ofList_toList]
  rw [← toList_trim]
  simpa using given

theorem aliasFor_unpackedAlias (h : Packs table columns names) {name : String} (mem : name ∈ names)
    (aliasName fallback : String) :
    aliasFor (unpackedAlias aliasName names name) name false fallback =
      aliasFor aliasName name (1 < names.length) fallback := by
  by_cases given : trim aliasName = ""
  · simp [unpackedAlias, aliasFor, given]
  · by_cases several : 1 < names.length
    · have named := trim_unpackedAlias (h.listable name mem) given
      have nonempty : trim aliasName ++ "_" ++ name ≠ "" := by simp
      rw [unpackedAlias, if_pos ⟨given, several⟩]
      simp only [aliasFor, named, if_neg nonempty, if_neg given, several, decide_true, if_true,
        Bool.false_eq_true, if_false]
    · rw [unpackedAlias, if_neg fun both => several both.2]
      simp [aliasFor, several]

theorem entryColumns_eq (h : Packs table columns names) (kind : EntryKind) :
    entryColumns kind (trim table) columns = .ok names :=
  entryColumns_eq_ok_iff.2 ⟨h.splitColumns_eq.symm ▸ h.ne_nil, h.splitColumns_eq⟩

end Packs

/-! ## Entries taken apart -/

namespace DimensionEntry

variable {s : DimensionEntry} {names : List String}

/-- Once its table is there, an entry lists the columns that it packs. -/
theorem columnsOf_of_packs (h : Packs s.table s.columns names) :
    s.columnsOf = (entryTable .dimension s.table).map fun table =>
      names.map fun name => (table, ⟨name, aliasFor s.aliasName name (1 < names.length) name⟩) := by
  cases read : entryTable .dimension s.table with
  | error e => rw [columnsOf, read]; rfl
  | ok table =>
    obtain ⟨-, rfl⟩ := entryTable_eq_ok_iff.1 read
    exact bind_eq_ok_iff.2 ⟨_, read, bind_eq_ok_iff.2 ⟨names, h.entryColumns_eq .dimension, rfl⟩⟩

theorem columnsOf_unpacked (h : Packs s.table s.columns names) :
    ((s.unpacked names).mapM columnsOf).map List.flatten = s.columnsOf := by
  rw [columnsOf_of_packs h, unpacked, List.mapM_map]
  refine map_flatten_mapM_of_map h.ne_nil fun name mem => ?_
  have alone := columnsOf_of_packs (s := ⟨s.table, name, unpackedAlias s.aliasName names name⟩)
    (h.single mem)
  simpa [h.aliasFor_unpackedAlias mem] using alone

end DimensionEntry

namespace MeasureEntry

variable {s : MeasureEntry} {names : List String}

/-- Once its table and its operator are there, an entry lists the columns that it packs. -/
theorem columnsOf_of_packs (h : Packs s.table s.columns names) :
    s.columnsOf = (do
      let table ← entryTable .measure s.table
      let op ← (Sql.Aggregate.ofName s.operator).mapError (.unknownOperator table)
      return (table, op) : Except RequestError (String × Sql.Aggregate)).map fun c =>
        names.map fun name => (c.1, ⟨name, c.2,
          aliasFor s.aliasName name (1 < names.length) (c.2.name ++ "_" ++ name)⟩) := by
  cases read : entryTable .measure s.table with
  | error e => rw [columnsOf, read]; rfl
  | ok table =>
    obtain ⟨-, rfl⟩ := entryTable_eq_ok_iff.1 read
    cases known : Sql.Aggregate.ofName s.operator with
    | error operator => rw [columnsOf, read, known]; rfl
    | ok op =>
      refine bind_eq_ok_iff.2 ⟨_, read, bind_eq_ok_iff.2 ⟨op, mapError_eq_ok_iff.2 known, ?_⟩⟩
      exact bind_eq_ok_iff.2 ⟨names, h.entryColumns_eq .measure, rfl⟩

theorem columnsOf_unpacked (h : Packs s.table s.columns names) :
    ((s.unpacked names).mapM columnsOf).map List.flatten = s.columnsOf := by
  rw [columnsOf_of_packs h, unpacked, List.mapM_map]
  refine map_flatten_mapM_of_map h.ne_nil fun name mem => ?_
  have alone := columnsOf_of_packs
    (s := ⟨s.table, name, s.operator, unpackedAlias s.aliasName names name⟩) (h.single mem)
  simpa [h.aliasFor_unpackedAlias mem] using alone

end MeasureEntry

/-! ## Requests with an entry taken apart -/

namespace QueryRequest

variable {r r' : QueryRequest}

theorem sameAnswers_of_entries (schema : r.schemaName = r'.schemaName)
    (condition : r.conditionData = r'.conditionData)
    (dimensions : (r.dimensionData.mapM DimensionEntry.columnsOf).map List.flatten =
      (r'.dimensionData.mapM DimensionEntry.columnsOf).map List.flatten)
    (measures : (r.measureData.mapM MeasureEntry.columnsOf).map List.flatten =
      (r'.measureData.mapM MeasureEntry.columnsOf).map List.flatten) : r.SameAnswers r' := by
  have selections : ∀ filter, Selection.ofRequest r filter = Selection.ofRequest r' filter := by
    intro filter
    rw [Selection.ofRequest_eq, Selection.ofRequest_eq, dimensions, measures]
  refine ⟨selections, fun target links => ?_⟩
  have schema_eq : r.schema = r'.schema := by rw [QueryRequest.schema, schema, QueryRequest.schema]
  simp only [compile, compileQuery, condition, selections, schema_eq]

/-- An entry may be exchanged for an entry for each of its columns. -/
theorem unpacked_same_answers (r : QueryRequest) (names : List String) :
    (∀ before entry after, r.dimensionData = before ++ entry :: after →
      Packs entry.table entry.columns names →
      r.SameAnswers { r with dimensionData := before ++ entry.unpacked names ++ after }) ∧
    ∀ before entry after, r.measureData = before ++ entry :: after →
      Packs entry.table entry.columns names →
      r.SameAnswers { r with measureData := before ++ entry.unpacked names ++ after } := by
  constructor
  · intro before entry after stands packs
    refine sameAnswers_of_entries rfl rfl ?_ rfl
    rw [stands]
    exact map_flatten_mapM_exchange (entry.columnsOf_unpacked packs) before after
  · intro before entry after stands packs
    refine sameAnswers_of_entries rfl rfl rfl ?_
    rw [stands]
    exact map_flatten_mapM_exchange (entry.columnsOf_unpacked packs) before after

/-- A separator may stand behind a column that ends like one begins. -/
theorem unpacked_pupils_answers :
    let pupils : DimensionEntry := ⟨" student ", "a$$& $&student.&b$& name ", " Pupil "⟩
    let grades : MeasureEntry := ⟨"exam", "grade$&exam.points", "AVG ", ""⟩
    let r : QueryRequest :=
      { dimensionData := [⟨"class", "title", ""⟩, pupils, ⟨"", "id", ""⟩], measureData := [grades] }
    r.SameAnswers { r with
        dimensionData := [⟨"class", "title", ""⟩, ⟨" student ", "a$", "Pupil_a$"⟩,
          ⟨" student ", "&b", "Pupil_&b"⟩, ⟨" student ", "name", "Pupil_name"⟩, ⟨"", "id", ""⟩] } ∧
      r.SameAnswers { r with
        measureData := [⟨"exam", "grade", "AVG ", ""⟩, ⟨"exam", "points", "AVG ", ""⟩] } := by
  intro pupils grades r
  have none : IsBlanks [] := nofun
  have pupils_pack : Packs pupils.table pupils.columns ["a$", "&b", "name"] := by
    have blank : IsBlanks [' '] := List.forall_mem_singleton.2 (by decide)
    have text : pupils.columns.toList = [] ++ "a$".toList ++ [] ++ (columnSeparator.toList ++
        ([' '] ++ (columnSeparator.toList ++ ([] ++ ("student" ++ "." ++ "&b").toList ++ [] ++
          (columnSeparator.toList ++ ([' '] ++ "name".toList ++ [' '])))))) := by decide
    have trimmed : trim pupils.table = "student" := by decide
    refine ⟨by decide, by decide, by decide, ?_⟩
    rw [text, trimmed]
    exact .append (.bare none none)
      (.append (.blank blank) (.append (.own none none) (.bare blank blank)))
  have grades_pack : Packs grades.table grades.columns ["grade", "points"] := by
    have text : grades.columns.toList = [] ++ "grade".toList ++ [] ++
        (columnSeparator.toList ++ ([] ++ ("exam" ++ "." ++ "points").toList ++ [])) := by decide
    have trimmed : trim grades.table = "exam" := by decide
    refine ⟨by decide, by decide, by decide, ?_⟩
    rw [text, trimmed]
    exact .append (.bare none none) (.own none none)
  have pupils_apart : pupils.unpacked ["a$", "&b", "name"] = [⟨" student ", "a$", "Pupil_a$"⟩,
      ⟨" student ", "&b", "Pupil_&b"⟩, ⟨" student ", "name", "Pupil_name"⟩] := by decide
  have grades_apart : grades.unpacked ["grade", "points"] =
      [⟨"exam", "grade", "AVG ", ""⟩, ⟨"exam", "points", "AVG ", ""⟩] := by decide
  have pupils_same := (unpacked_same_answers r _).1 [⟨"class", "title", ""⟩] pupils [⟨"", "id", ""⟩]
    rfl pupils_pack
  have grades_same := (unpacked_same_answers r _).2 [] grades [] rfl grades_pack
  rw [pupils_apart] at pupils_same
  rw [grades_apart] at grades_same
  exact ⟨pupils_same, grades_same⟩

end QueryRequest

end Joinery
