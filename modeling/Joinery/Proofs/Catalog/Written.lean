import Joinery.Catalog.File
import Joinery.Proofs.Catalog.Columns
import Joinery.Proofs.Json.Printed
import Joinery.Proofs.Json.Record

/-!
# Written catalogs

A catalog may hold the same links in many ways: as JSON rows, whose lists of columns are lists of texts or
delimited texts and whose fields have three names each (`WritesLinks`), or as rows of a database with
delimited texts (`StoredLink.Stores`). Each list is written in a way of its own. Whatever the ways are, the
links are loaded as they are, in their order: `loads_written_links`.
-/

namespace Joinery

open Text Json

/-! ## Ways to write links -/

/-- The document of a written list of columns. -/
def WrittenColumns.document : WrittenColumns → Document
  | delimited text => textDocument text
  | listed columns => .arr (columns.map textDocument) none

/-- A way to write a list of columns. -/
inductive WrittenColumns.Writes (d : Char) (columns : List String) : WrittenColumns → Prop
  | delimited {text : String} (h : DelimitedColumns d columns text.toList) : Writes d columns (.delimited text)
  | listed : Writes d columns (.listed columns)

/-- The fields of a row, as they are written. -/
def LinkEntry.views (e : LinkEntry) : List FieldView :=
  [{ names := ["left_table", "leftTable", "lefttablename"], shows := (· = textDocument e.leftTable) },
   { names := ["right_table", "rightTable", "righttablename"], shows := (· = textDocument e.rightTable) },
   { names := ["left_columns", "leftColumns", "leftcolumnnames"], shows := (· = e.leftColumns.document) },
   { names := ["right_columns", "rightColumns", "rightcolumnnames"], shows := (· = e.rightColumns.document) }]

/-- A row is a way to write a link. -/
structure LinkEntry.Writes (d : Char) (e : LinkEntry) (l : Link) : Prop where
  leftTable : e.leftTable = l.leftTable
  rightTable : e.rightTable = l.rightTable
  leftColumns : e.leftColumns.Writes d l.leftColumns
  rightColumns : e.rightColumns.Writes d l.rightColumns

/-- A JSON text is a way to write links. -/
def WritesLinks (d : Char) (links : List Link) (source : String) : Prop :=
  ∃ entries, List.Forall₂ (LinkEntry.Writes d) entries links ∧
    ∃ document : Document, document.IsText source ∧ document.ShowsEntries LinkEntry.views entries

/-- A row of a database is a way to store a link. -/
structure StoredLink.Stores (d : Char) (r : StoredLink) (l : Link) : Prop where
  leftTable : r.leftTable = .text l.leftTable
  rightTable : r.rightTable = .text l.rightTable
  leftColumns : ∃ text, r.leftColumns = .text text ∧ DelimitedColumns d l.leftColumns text.toList
  rightColumns : ∃ text, r.rightColumns = .text text ∧ DelimitedColumns d l.rightColumns text.toList

/-- A link that a catalog can hold: its names are trimmed, and its columns can stand in a list with the
delimiter. -/
structure Link.IsPlain (d : Char) (l : Link) : Prop where
  leftTable : trim l.leftTable = l.leftTable
  rightTable : trim l.rightTable = l.rightTable
  leftColumns : ∀ name ∈ l.leftColumns, IsColumnName d name
  rightColumns : ∀ name ∈ l.rightColumns, IsColumnName d name

/-! ## Reading rows -/

theorem columnNames_eq_self {d : Char} {names : List String} (plain : ∀ name ∈ names, IsColumnName d name) :
    columnNames names = names := by
  induction names with
  | nil => rfl
  | cons name names ih =>
    obtain ⟨is_name, plain⟩ := List.forall_mem_cons.1 plain
    have some_name : trim name ≠ "" := by rw [is_name.trimmed]; exact is_name.nonempty
    rw [columnNames_cons some_name, is_name.trimmed, ih plain]

theorem WrittenColumns.Writes.columns_eq {d : Char} {columns : List String} {w : WrittenColumns}
    (h : w.Writes d columns) (plain : ∀ name ∈ columns, IsColumnName d name) :
    w.columns (String.singleton d) = columns := by
  cases h with
  | delimited h => exact h.columnList_eq plain
  | listed => exact columnNames_eq_self plain

theorem LinkEntry.Writes.link_eq {d : Char} {e : LinkEntry} {l : Link} (h : e.Writes d l)
    (plain : l.IsPlain d) : e.link (String.singleton d) = l := by
  rw [link, h.leftTable, h.rightTable, plain.leftTable, plain.rightTable,
    h.leftColumns.columns_eq plain.leftColumns, h.rightColumns.columns_eq plain.rightColumns]

theorem faultWithin_textDocuments (levels : Nat) (texts : List String) :
    (texts.map textDocument).findSome? (faultWithin levels) = none := by
  rw [List.findSome?_eq_none_iff]
  intro d mem
  obtain ⟨text, -, rfl⟩ := List.mem_map.1 mem
  rw [textDocument, faultWithin]

theorem mapM_text? (texts : List String) : (texts.map textDocument).mapM Document.text? = some texts := by
  induction texts with
  | nil => rfl
  | cons text texts ih =>
    rw [List.map_cons, List.mapM_cons, ih]
    rfl

theorem writtenColumnsReader_document (w : WrittenColumns) : writtenColumnsReader w.document = .ok w := by
  cases w with
  | delimited text => rfl
  | listed columns =>
    have no_fault : faultWithin (maxLevels - 2) (.arr (columns.map textDocument) none) = none := by
      change ((columns.map textDocument).findSome? (faultWithin 124) <|> none) = none
      rw [faultWithin_textDocuments]
      rfl
    have found : asWrittenColumns? (.arr (columns.map textDocument) none) = some (.listed columns) := by
      rw [asWrittenColumns?, mapM_text?]
      rfl
    rw [WrittenColumns.document, writtenColumnsReader, no_fault, found]
    rfl

/-- The fields of a row, as they are read. -/
def LinkEntry.slots (e : LinkEntry) : List (Slot PartialLinkEntry) :=
  Slot.ofViews record.fields e.views
    [fun p => { p with leftTable := some e.leftTable },
     fun p => { p with rightTable := some e.rightTable },
     fun p => { p with leftColumns := some e.leftColumns },
     fun p => { p with rightColumns := some e.rightColumns }]

theorem LinkEntry.fits (e : LinkEntry) : record.Fits e.slots e where
  fields := rfl
  apart := by simp [slots, Slot.ofViews, Slot.apart_iff, Slot.view, record, views]
  reads := by
    simp only [slots, record, views, Slot.forall_mem_ofViews_cons]
    refine ⟨?leftTable, ?rightTable, ?leftColumns, ?rightColumns, Slot.forall_mem_ofViews_nil⟩
    case leftTable | rightTable =>
      rintro _ p - rfl
      rfl
    case leftColumns | rightColumns =>
      rintro _ p - rfl
      rw [writtenColumnsReader_document]
      rfl
  unread := by simp [slots, Slot.ofViews, record, views]
  usual := by
    simp only [slots, record, views, Slot.forall_mem_ofViews_cons]
    exact ⟨False.elim, False.elim, False.elim, False.elim, Slot.forall_mem_ofViews_nil⟩
  complete := rfl

theorem linksOfJson_eq {d : Char} {links : List Link} {source : String} (plain : ∀ l ∈ links, l.IsPlain d)
    (h : WritesLinks d links source) : linksOfJson (String.singleton d) source = .ok links := by
  obtain ⟨entries, writes, document, text, shows⟩ := h
  have read : ofText (list LinkEntry.record.read) source = .ok entries :=
    ofText_eq text (Record.list_eq LinkEntry.fits shows text.isWellFormed)
  have each := (List.forall₂_and_left links entries).2 ⟨plain, writes.flip⟩
  have eq : links = entries.map (·.link (String.singleton d)) := by
    rw [← List.forall₂_eq_eq_eq, List.forall₂_map_right_iff]
    exact each.imp fun l e h => (h.2.link_eq h.1).symm
  rw [linksOfJson, read, eq]

/-! ## Loading rows -/

theorem ofText?_defaultQuery : LinkStatement.ofText? defaultQuery =
    some ⟨[.leftTable, .rightTable, .leftColumns, .rightColumns], false⟩ := by
  decide +kernel

theorem StoredLink.Stores.linkAt_eq {d : Char} {r : StoredLink} {l : Link} (h : r.Stores d l)
    (plain : l.IsPlain d) (row : Nat) :
    DatabaseCatalog.linkAt (String.singleton d) [.leftTable, .rightTable, .leftColumns, .rightColumns] r row =
      .ok l := by
  obtain ⟨left, left_cell, left_columns⟩ := h.leftColumns
  obtain ⟨right, right_cell, right_columns⟩ := h.rightColumns
  obtain ⟨scope, _, _, _, _⟩ := r
  obtain ⟨rfl, rfl⟩ : _ ∧ _ := ⟨h.leftTable, h.rightTable⟩
  obtain ⟨rfl, rfl⟩ : _ ∧ _ := ⟨left_cell, right_cell⟩
  change Except.ok (Link.ofTexts l.leftTable l.rightTable left right (String.singleton d)) = _
  rw [Link.ofTexts, plain.leftTable, plain.rightTable, left_columns.columnList_eq plain.leftColumns,
    right_columns.columnList_eq plain.rightColumns]

theorem DatabaseCatalog.load_eq {d : Char} {links : List Link} {rows : List StoredLink}
    (plain : ∀ l ∈ links, l.IsPlain d) (h : List.Forall₂ (StoredLink.Stores d) rows links) :
    ({ delimiter := String.singleton d } : DatabaseCatalog).load rows = .ok links := by
  have each : List.Forall₂ (fun (place : StoredLink × Nat) l =>
      linkAt (String.singleton d) [.leftTable, .rightTable, .leftColumns, .rightColumns] place.1 place.2 =
        .ok l) rows.zipIdx links := by
    have stores : List.Forall₂ (fun (place : StoredLink × Nat) l => place.1.Stores d l) rows.zipIdx links := by
      rw [← List.forall₂_map_left_iff (f := Prod.fst), List.zipIdx_map_fst]
      exact h
    have all := (List.forall₂_and_left links rows.zipIdx).2 ⟨plain, stores.flip⟩
    exact (all.imp fun l place h => h.2.linkAt_eq h.1 place.2).flip
  let statement : LinkStatement := ⟨[.leftTable, .rightTable, .leftColumns, .rightColumns], false⟩
  have query : queryText { delimiter := String.singleton d } = defaultQuery := by simp [queryText]
  have selected : rows.filter (statement.selects none) = rows := List.filter_eq_self.2 fun _ _ => rfl
  rw [load, query, ofText?_defaultQuery]
  change (rows.filter (statement.selects none)).zipIdx.mapM _ = _
  rw [selected]
  exact mapM_eq_ok_iff.2 each

/-! ## Loading links -/

section Loading

variable {m : Type → Type} [Monad m] [LawfulMonad m]

theorem ofJsonFile_eq {h : Host m} {delimiter path source : String}
    (found : h.content path = pure (some (.text source))) :
    LinkLoader.ofJsonFile h delimiter path = pure (linksOfJson delimiter source) := by
  rw [LinkLoader.ofJsonFile, Host.text, found]
  simp

/-- Links are loaded as they are, from every JSON file and every database that they are written to. -/
theorem loads_written_links {d : Char} {links : List Link} (plain : ∀ l ∈ links, l.IsPlain d) :
    (∀ (h : Host m) path source, h.content path = pure (some (.text source)) → WritesLinks d links source →
      LinkLoader.ofJsonFile h (String.singleton d) path = pure (.ok links)) ∧
    ∀ rows, List.Forall₂ (StoredLink.Stores d) rows links →
      ({ delimiter := String.singleton d } : DatabaseCatalog).load rows = .ok links := by
  refine ⟨fun h path source found written => ?_, fun rows stored => DatabaseCatalog.load_eq plain stored⟩
  rw [ofJsonFile_eq found, linksOfJson_eq plain written]

end Loading

/-- A tuple and a list of texts in JSON, with the names of fields mixed and another field among them, and the
same link in a database. -/
theorem tuple_of_columns_loaded :
    let link : Link := ⟨"a", "b", ["x", "y"], ["x", "y"]⟩
    let host : Host Id :=
      { env := fun _ => none
        content := fun _ => some (.text
          ("[\x7b\"note\":null,\"rightColumns\":[\"x\",\"y\"],\"left_columns\":\" (x, ,y,)\"," ++
            "\"righttablename\":\"b\",\"leftTable\":\"a\"\x7d]"))
        configDirectory := none }
    LinkLoader.ofJsonFile host (String.singleton ',') "links.json" = .ok [link] ∧
      ({ delimiter := String.singleton ',' } : DatabaseCatalog).load
        [⟨.null, .text "a", .text "b", .text "(x, ,y,)", .text "x,y"⟩] = .ok [link] := by
  intro link host
  have is_name {name : String} (mem : name ∈ ["x", "y"]) : IsColumnName ',' name := by
    have all : ∀ name ∈ ["x", "y"], trim name = name ∧ name ≠ "" ∧ ',' ∉ name.toList := by decide
    exact ⟨(all name mem).1, (all name mem).2.1, (all name mem).2.2⟩
  have plain : ∀ l ∈ [link], l.IsPlain ',' :=
    List.forall_mem_singleton.2 ⟨by decide, by decide, fun _ => is_name, fun _ => is_name⟩
  have no_blanks : IsBlanks [] := nofun
  have one_blank : IsBlanks [' '] := List.forall_mem_singleton.2 rfl
  have name_pieces (name : String) : WritesPieces ',' [name] name.toList := by
    have padded : WritesPieces ',' [name] ([] ++ name.toList ++ []) := .name no_blanks no_blanks
    simpa using padded
  have tuple : WritesPieces ',' ["x", "y"] "x, ,y,".toList :=
    (name_pieces "x").append (.append (.blank one_blank) (.append (name_pieces "y") (.blank no_blanks)))
  have pair : DelimitedColumns ',' ["x", "y"] "x,y".toList :=
    .bare ((name_pieces "x").append (name_pieces "y")) (by decide)
  have stored : List.Forall₂ (StoredLink.Stores ',')
      [⟨.null, .text "a", .text "b", .text "(x, ,y,)", .text "x,y"⟩] [link] :=
    .cons ⟨rfl, rfl, ⟨_, rfl, .enclosed no_blanks tuple no_blanks⟩, ⟨_, rfl, pair⟩⟩ .nil
  let entry : LinkEntry := ⟨"a", "b", .delimited " (x, ,y,)", .listed ["x", "y"]⟩
  have writes : entry.Writes ',' link :=
    ⟨rfl, rfl, .delimited (.enclosed one_blank tuple no_blanks), .listed⟩
  let row : Value := .obj [("note", .null), ("rightColumns", .arr [.text "x", .text "y"]),
    ("left_columns", .text " (x, ,y,)"), ("righttablename", .text "b"), ("leftTable", .text "a")]
  have shows : row.document.ShowsFields entry.views := by
    let shown := Value.memberDocuments [("leftTable", .text "a"), ("righttablename", .text "b"),
      ("left_columns", .text " (x, ,y,)"), ("rightColumns", .arr [.text "x", .text "y"])]
    let foreign := Value.memberDocuments [("note", .null)]
    refine ⟨shown, foreign, _, rfl, ?_, ?_, List.reverse_perm (shown ++ foreign)⟩
    · refine .shown ?_ rfl (.shown ?_ rfl (.shown ?_ rfl (.shown ?_ rfl .nil)))
      all_goals decide
    · exact List.forall_mem_singleton.2 ⟨"note", rfl, by decide⟩
  have written : WritesLinks ',' [link] (Value.arr [row]).line :=
    ⟨[entry], .cons writes .nil, _, (Value.arr [row]).isText_line, _, rfl, .cons shows .nil⟩
  exact ⟨(loads_written_links plain).1 host _ _ rfl written, (loads_written_links (m := Id) plain).2 _ stored⟩

end Joinery
