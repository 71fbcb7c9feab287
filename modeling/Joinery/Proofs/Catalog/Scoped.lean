import Joinery.Catalog.DatabaseFile
import Joinery.Proofs.Catalog.Written

/-!
# Links of a scope

A catalog with a scope runs another statement than one without, and gives it a parameter. What it loads is what
the catalog without a scope loads from the rows of the scope alone (`load_scope_eq`), so rows of other scopes do
not matter, not even for the number of a row in an error. All of these rows are loaded or none is: the first value
that is no text decides, by rows and then from the left to the right (`loads_scope_or_first_fault`).
-/

namespace Joinery

open DatabaseFile

/-! ## Elements with their positions -/

section Positions

variable {ε α β : Type} {f : α × Nat → Except ε β} {l : List α}

/-- Where success depends on the element alone, the first bad element decides, at its position. -/
theorem mapM_zipIdx_eq_error_iff {P : α → Prop} (succeeds : ∀ a i, (∃ b, f (a, i) = .ok b) ↔ P a) {e : ε} :
    l.zipIdx.mapM f = .error e ↔ ∃ before a after, l = before ++ a :: after ∧ (∀ b ∈ before, P b) ∧
      f (a, before.length) = .error e := by
  rw [mapM_eq_error_iff]
  constructor
  · rintro ⟨front, ⟨a, i⟩, back, split, succeed, failed⟩
    -- What stands before the bad element keeps its positions, but succeeds at any position.
    obtain ⟨before, rest, rfl, rfl, rest_eq⟩ := List.zipIdx_eq_append_iff.1 split
    obtain ⟨a, after, rfl, head, -⟩ := List.zipIdx_eq_cons_iff.1 rest_eq.symm
    obtain ⟨rfl, rfl⟩ := Prod.mk.inj head
    refine ⟨before, _, after, rfl, fun b mem => ?_, by simpa using failed⟩
    obtain ⟨i, at_i⟩ := List.mem_iff_getElem?.1 mem
    exact (succeeds b i).1 (succeed (b, i) (List.mem_zipIdx_iff_getElem?.2 at_i))
  · rintro ⟨before, a, after, rfl, all_good, failed⟩
    refine ⟨before.zipIdx, (a, before.length), after.zipIdx (before.length + 1), ?_, ?_, failed⟩
    · rw [List.zipIdx_append, List.zipIdx_cons, Nat.zero_add]
    · rintro ⟨b, i⟩ mem
      exact (succeeds b i).2 (all_good b (List.fst_mem_of_mem_zipIdx mem))

/-- Where the result depends on the element alone, the results are those of the elements in order. -/
theorem mapM_zipIdx_eq_ok_iff {R : α → β → Prop} (same : ∀ a i b, f (a, i) = .ok b ↔ R a b)
    {r : List β} : l.zipIdx.mapM f = .ok r ↔ List.Forall₂ R l r := by
  rw [mapM_eq_ok_iff]
  conv_rhs => rw [← List.zipIdx_map_fst 0 l, List.forall₂_map_left_iff]
  exact Iff.of_eq (congrArg (List.Forall₂ · l.zipIdx r) (funext fun p => funext fun b => propext (same p.1 p.2 b)))

end Positions

/-! ## Values and rows -/

/-- The text in a cell. -/
def Cell.text? : Cell → Option String
  | text value => some value
  | _ => none

/-- What is wrong with a value that is no text. -/
def Cell.fault (row index : Nat) (column : LinkColumn) : Cell → CatalogError
  | brokenText place => .database (.textBroken index place)
  | null => .nullColumn row (index + 1)
  | cell => .database (.columnType cell.typeName index column.name)

namespace StoredLink

/-- The link in a row of texts. -/
def link? (delimiter : String) (r : StoredLink) : Option Link := do
  return .ofTexts (← r.leftTable.text?) (← r.rightTable.text?) (← r.leftColumns.text?) (← r.rightColumns.text?)
    delimiter

/-- The values that make a link are texts. -/
def IsWhole (r : StoredLink) : Prop :=
  ∀ c ∈ linkColumns, (r.cell c).text?.isSome

instance (r : StoredLink) : Decidable r.IsWhole :=
  inferInstanceAs (Decidable (∀ c ∈ linkColumns, (r.cell c).text?.isSome))

theorem exists_link?_iff {delimiter : String} {r : StoredLink} : (∃ l, r.link? delimiter = some l) ↔ r.IsWhole := by
  simp [link?, IsWhole, linkColumns, cell, Option.bind_eq_some_iff, Option.isSome_iff_exists]

/-- The first value from the left that is no text, and what is wrong with it. -/
def FirstFault (r : StoredLink) (row : Nat) (e : CatalogError) : Prop :=
  ∃ front c back, linkColumns = front ++ c :: back ∧ (∀ c' ∈ front, (r.cell c').text?.isSome) ∧
    (r.cell c).text? = none ∧ e = (r.cell c).fault row front.length c

end StoredLink

namespace DatabaseCatalog

variable {delimiter : String} {row index : Nat} {column : LinkColumn} {cell : Cell} {r : StoredLink}
  {rows : List StoredLink} {e : CatalogError}

theorem textAt_eq_ok_iff {text : String} : textAt row index column cell = .ok text ↔ cell.text? = some text := by
  cases cell <;> simp [textAt, Cell.text?]

theorem exists_textAt_iff : (∃ text, textAt row index column cell = .ok text) ↔ cell.text?.isSome := by
  simp only [textAt_eq_ok_iff, Option.isSome_iff_exists]

theorem textAt_eq_error_iff :
    textAt row index column cell = .error e ↔ cell.text? = none ∧ e = cell.fault row index column := by
  cases cell <;> simp [textAt, Cell.text?, Cell.fault, eq_comm]

/-- The texts of a row, from the left to the right. -/
theorem rowTexts_eq_ok_iff {columns : List LinkColumn} {texts : List String} :
    (columns.zipIdx.mapM fun (column, index) => textAt row index column (r.cell column)) = .ok texts ↔
      List.Forall₂ (fun c text => (r.cell c).text? = some text) columns texts :=
  mapM_zipIdx_eq_ok_iff fun _ _ _ => textAt_eq_ok_iff

theorem linkAt_eq_ok_iff {l : Link} :
    linkAt delimiter linkColumns r row = .ok l ↔ r.link? delimiter = some l := by
  rw [linkAt, bind_eq_ok_iff]
  constructor
  · rintro ⟨texts, all_texts, made⟩
    match texts, rowTexts_eq_ok_iff.1 all_texts with
    | [_, _, _, _], .cons left (.cons right (.cons lefts (.cons rights .nil))) =>
      simp only [StoredLink.cell] at left right lefts rights
      rw [StoredLink.link?, left, right, lefts, rights]
      exact congrArg some (Except.ok.inj made)
  · intro made
    obtain ⟨_, left, made⟩ := Option.bind_eq_some_iff.1 made
    obtain ⟨_, right, made⟩ := Option.bind_eq_some_iff.1 made
    obtain ⟨_, lefts, made⟩ := Option.bind_eq_some_iff.1 made
    obtain ⟨_, rights, made⟩ := Option.bind_eq_some_iff.1 made
    exact ⟨_, rowTexts_eq_ok_iff.2 (.cons left (.cons right (.cons lefts (.cons rights .nil)))),
      congrArg Except.ok (Option.some.inj made)⟩

theorem linkAt_eq_error_iff : linkAt delimiter linkColumns r row = .error e ↔ r.FirstFault row e := by
  have first_text : (linkColumns.zipIdx.mapM fun (column, index) => textAt row index column (r.cell column)) =
      .error e ↔ r.FirstFault row e := by
    rw [mapM_zipIdx_eq_error_iff (P := fun c => (r.cell c).text?.isSome) fun _ _ => exists_textAt_iff]
    simp only [textAt_eq_error_iff]
    rfl
  rw [linkAt, bind_eq_error_iff, first_text]
  refine or_iff_left ?_
  rintro ⟨texts, all_texts, failed⟩
  have four : texts.length = 4 := (rowTexts_eq_ok_iff.1 all_texts).length_eq.symm
  obtain ⟨a, b, c, d, rfl⟩ := List.length_eq_four.1 four
  cases failed

theorem exists_linkAt_iff : (∃ l, linkAt delimiter linkColumns r row = .ok l) ↔ r.IsWhole := by
  simp only [linkAt_eq_ok_iff, StoredLink.exists_link?_iff]

/-! ## Loading -/

/-- The links in rows, each read as a row of a result. -/
def linksOfRows (delimiter : String) (rows : List StoredLink) : Except CatalogError (List Link) :=
  rows.zipIdx.mapM fun (stored, row) => linkAt delimiter linkColumns stored row

theorem ofText?_defaultScopedQuery : LinkStatement.ofText? defaultScopedQuery = some ⟨linkColumns, true⟩ := by
  decide +kernel

theorem load_eq_linksOfRows (delimiter : String) (rows : List StoredLink) :
    ({ delimiter } : DatabaseCatalog).load rows = linksOfRows delimiter rows := by
  have query : queryText { delimiter } = defaultQuery := by simp [queryText]
  have all_selected : rows.filter (LinkStatement.selects ⟨linkColumns, false⟩ none) = rows :=
    List.filter_eq_self.2 fun _ _ => rfl
  rw [load, query, ofText?_defaultQuery]
  exact congrArg (linksOfRows delimiter) all_selected

theorem load_scope_eq (scope delimiter : String) (rows : List StoredLink) :
    ({ scope := some scope, delimiter } : DatabaseCatalog).load rows =
      linksOfRows delimiter (rows.filter (·.scope = .text scope)) := by
  have query : queryText { scope := some scope, delimiter } = defaultScopedQuery := by simp [queryText]
  have selected : rows.filter (LinkStatement.selects ⟨linkColumns, true⟩ (some scope)) =
      rows.filter (·.scope = .text scope) := List.filter_congr fun _ _ => by simp [LinkStatement.selects]
  rw [load, query, ofText?_defaultScopedQuery]
  exact congrArg (linksOfRows delimiter) selected

/-- One row after the other is read, and the first that is not whole ends it. -/
theorem linksOfRows_eq_error_iff : linksOfRows delimiter rows = .error e ↔
    ∃ before r after, rows = before ++ r :: after ∧ (∀ b ∈ before, b.IsWhole) ∧ r.FirstFault before.length e := by
  rw [linksOfRows, mapM_zipIdx_eq_error_iff (P := StoredLink.IsWhole) fun _ _ => exists_linkAt_iff]
  simp only [linkAt_eq_error_iff]

theorem linksOfRows_eq_ok_iff {links : List Link} : linksOfRows delimiter rows = .ok links ↔
    List.Forall₂ (fun r l => r.link? delimiter = some l) rows links :=
  mapM_zipIdx_eq_ok_iff fun _ _ _ => linkAt_eq_ok_iff

theorem exists_linksOfRows_iff : (∃ links, linksOfRows delimiter rows = .ok links) ↔ ∀ r ∈ rows, r.IsWhole := by
  constructor
  · rintro ⟨links, loaded⟩ r mem
    obtain ⟨row, standing⟩ := List.mem_iff_getElem?.1 mem
    obtain ⟨l, -, read⟩ := exists_of_mem_of_mapM loaded (List.mem_zipIdx_iff_getElem? (x := (r, row)) |>.2 standing)
    exact exists_linkAt_iff.1 ⟨l, read⟩
  · intro whole
    exact exists_mapM_eq_ok fun p mem => exists_linkAt_iff.2 (whole p.1 (List.fst_mem_of_mem_zipIdx mem))

/-- A catalog with a scope loads what one without a scope loads from the rows of the scope. These are the links of
all these rows in their order if each of them is whole, and otherwise none: the first row that is not whole is
blamed, by its number among the rows of the scope, with its first value that is no text. Other rows do not
matter. -/
theorem loads_scope_or_first_fault (scope delimiter : String) (rows : List StoredLink) :
    let c : DatabaseCatalog := { scope := some scope, delimiter }
    let chosen := rows.filter (·.scope = .text scope)
    c.load rows = ({ delimiter } : DatabaseCatalog).load chosen ∧
      (∀ links, c.load rows = .ok links ↔ List.Forall₂ (fun r l => r.link? delimiter = some l) chosen links) ∧
      ((∃ links, c.load rows = .ok links) ↔ ∀ r ∈ chosen, r.IsWhole) ∧
      (∀ e, c.load rows = .error e ↔ ∃ before r after, chosen = before ++ r :: after ∧
        (∀ b ∈ before, b.IsWhole) ∧ r.FirstFault before.length e) ∧
      ∀ before r after, rows = before ++ r :: after → r.scope ≠ .text scope →
        c.load rows = c.load (before ++ after) := by
  intro c chosen
  have loaded : ∀ rows, c.load rows = linksOfRows delimiter (rows.filter (·.scope = .text scope)) :=
    load_scope_eq scope delimiter
  refine ⟨?_, fun links => ?_, ?_, fun e => ?_, ?_⟩
  · rw [loaded, load_eq_linksOfRows]
  · rw [loaded, linksOfRows_eq_ok_iff]
  · rw [loaded, exists_linksOfRows_iff]
  · rw [loaded, linksOfRows_eq_error_iff]
  · rintro before r after rfl foreign
    rw [loaded, loaded, List.filter_append, List.filter_append, List.filter_cons_of_neg (by simpa using foreign)]

def termRow : StoredLink :=
  ⟨.text "1", .text "fact", .text "term", .text "term_id", .text "id"⟩

/-- A row with a number for its scope, and no links in it. -/
def foreignRow : StoredLink :=
  ⟨.integer, .null, .null, .null, .null⟩

def brokenRow : StoredLink :=
  ⟨.text "1", .text "fact", .blob, .null, .text "id"⟩

/-- The second row of the scope is blamed, with its first value from the left that is no text. The foreign row
between is not seen. -/
theorem broken_row_blamed :
    let c : DatabaseCatalog := { scope := some "1" }
    foreignRow.scope ≠ .text "1" ∧ c.load [termRow, foreignRow, brokenRow] = c.load [termRow, brokenRow] ∧
      c.load [termRow, foreignRow, brokenRow] = .error (.database (.columnType "Blob" 1 "right_table")) ∧
      ({ } : DatabaseCatalog).load [termRow, foreignRow, brokenRow] = .error (.nullColumn 1 1) := by
  intro c
  have foreign : foreignRow.scope ≠ .text "1" := by decide
  obtain ⟨-, -, -, blamed, unseen⟩ :=
    loads_scope_or_first_fault "1" defaultDelimiter [termRow, foreignRow, brokenRow]
  have whole : ∀ r ∈ [termRow], r.IsWhole := by decide
  have fault : brokenRow.FirstFault 1 (.database (.columnType "Blob" 1 "right_table")) :=
    ⟨[.leftTable], .rightTable, [.leftColumns, .rightColumns], rfl, by decide, by decide, by decide⟩
  refine ⟨foreign, unseen [termRow] foreignRow [brokenRow] rfl foreign,
    (blamed _).2 ⟨[termRow], brokenRow, [], by decide, whole, fault⟩, by decide +kernel⟩

end DatabaseCatalog

end Joinery
