import Mathlib.Data.List.Find
import Joinery.Proofs.Assembly.Faults

/-!
# Statements in other dialects

A statement is put together in the same way for two dialects that compare the names of its tables' columns
alike: what an inner statement shows, what it refuses and what it groups by depends on these comparisons alone
(`TableQuery.addAll_congr`), and nothing else looks at the dialect (`assemble_congr`). All dialects but one ignore
case, and that one compares alike where case makes no difference (`Selection.CaseIsClear`). A statement has one
list of tokens; only the delimiters of names in its text belong to a dialect (`Query.toSql_eq_join`). `dialects_differ_in_delimiters` says
both of all statements.
-/

namespace Joinery

open Sql Text

/-! ## Comparing names alike -/

section Alike

variable {d d' : Dialect} {asked items : List InnerItem} {s s' : TableQuery} {item : InnerItem}

/-- Two dialects find the same names and the same values among some items. -/
structure CompareAlike (d d' : Dialect) (items : List InnerItem) : Prop where
  names : ∀ a ∈ items, ∀ b ∈ items,
    d.sameColumn a.aliasName b.aliasName = d'.sameColumn a.aliasName b.aliasName
  values : ∀ a ∈ items, ∀ b ∈ items,
    TableQuery.sameExpr d a.expr b.expr = TableQuery.sameExpr d' a.expr b.expr

namespace TableQuery

theorem add_congr (alike : CompareAlike d d' asked) (shown : s.items ⊆ asked) (mem : item ∈ asked) :
    add d s item = add d' s item := by
  -- What is shown was asked for, so both dialects find the same item among what is shown.
  have same_found : s.items.find? (fun i => d.sameColumn i.aliasName item.aliasName) =
      s.items.find? fun i => d'.sameColumn i.aliasName item.aliasName :=
    List.find?_congr fun i hi => alike.names i (shown hi) item mem
  rw [add, add, same_found]
  cases found : s.items.find? fun i => d'.sameColumn i.aliasName item.aliasName with
  | none => rfl
  | some i =>
    have i_asked := shown (List.mem_of_find?_eq_some found)
    simp only [alike.values i i_asked item mem]

theorem items_subset_of_add (shown : s.items ⊆ asked) (mem : item ∈ asked) (added : add d s item = .ok s') :
    s'.items ⊆ asked := by
  rcases add_cases added with ⟨rfl, -⟩ | ⟨rfl, -⟩
  · exact shown
  · exact List.append_subset.2 ⟨shown, List.cons_subset.2 ⟨mem, List.nil_subset _⟩⟩

theorem addAll_congr (alike : CompareAlike d d' asked) (shown : s.items ⊆ asked) (sub : items ⊆ asked) :
    addAll d s items = addAll d' s items := by
  induction items generalizing s with
  | nil => rfl
  | cons item items ih =>
    obtain ⟨mem, sub⟩ := List.cons_subset.1 sub
    unfold addAll
    rw [List.foldlM_cons, List.foldlM_cons, add_congr alike shown mem]
    exact bind_congr_ok fun s₁ added => ih (items_subset_of_add shown mem added) sub

end TableQuery

variable {selection : Selection} {joins : List Link}

theorem assemble_congr (alike : ∀ t ∈ participants selection joins, CompareAlike d d' (selection.asked joins t))
    (schema : Option String) (filter : Option String) :
    assemble d schema selection joins filter = assemble d' schema selection joins filter := by
  have same : ∀ t ∈ participants selection joins,
      TableQuery.ofTable d selection joins t = TableQuery.ofTable d' selection joins t := fun t mem =>
    TableQuery.addAll_congr (alike t mem) (List.nil_subset _) (List.Subset.refl _)
  have same_inner : ∀ tables, Assembly.tablesOf selection joins = .ok tables →
      tables.mapM (TableQuery.ofTable d selection joins) =
        tables.mapM (TableQuery.ofTable d' selection joins) := by
    intro tables found
    obtain ⟨-, rfl⟩ := tablesOf_eq_ok_iff_reached.1 found
    exact mapM_congr same
  unfold assemble
  split_ifs
  · rfl
  · rfl
  · refine bind_congr_ok fun _ _ => bind_congr_ok fun tables found => ?_
    rw [same_inner tables found]

theorem Dialect.ignoresColumnCase_of_ne (ne : d ≠ .postgres) : d.ignoresColumnCase = true := by
  cases d with
  | postgres => exact absurd rfl ne
  | duckdb | mysql | tsql => rfl

theorem TableQuery.sameExpr_congr {a b : Expr} (columns : ∀ t c t' c', a = .column t c → b = .column t' c' →
    d.sameColumn c c' = d'.sameColumn c c') : sameExpr d a b = sameExpr d' a b := by
  unfold sameExpr
  split
  next => rw [columns _ _ _ _ rfl rfl]
  next => rfl

theorem compareAlike_of_ignoresColumnCase (same : d.ignoresColumnCase = d'.ignoresColumnCase) :
    CompareAlike d d' items := by
  have same_names : ∀ a b, d.sameColumn a b = d'.sameColumn a b := fun a b => by
    rw [Dialect.sameColumn, Dialect.sameColumn, same]
  exact {
    names := fun a _ b _ => same_names a.aliasName b.aliasName
    values := fun a _ b _ => TableQuery.sameExpr_congr fun _ c _ c' _ _ => same_names c c' }

end Alike

/-! ## Names that case tells apart -/

/-- No two names differ in case alone. -/
def DifferBeyondCase (names : List String) : Prop :=
  ∀ a ∈ names, ∀ b ∈ names, asciiLowercase a = asciiLowercase b → a = b

instance (names : List String) : Decidable (DifferBeyondCase names) :=
  inferInstanceAs (Decidable (∀ a ∈ names, ∀ b ∈ names, asciiLowercase a = asciiLowercase b → a = b))

theorem DifferBeyondCase.sameColumn_eq {names : List String} (differ : DifferBeyondCase names) {a b : String}
    (ha : a ∈ names) (hb : b ∈ names) (d : Dialect) : d.sameColumn a b = (a == b) := by
  unfold Dialect.sameColumn
  split_ifs
  · rw [Bool.eq_iff_iff, beq_iff_eq, beq_iff_eq]
    exact ⟨differ a ha b hb, congrArg asciiLowercase⟩
  · rfl

namespace Selection

variable {selection : Selection} {joins : List Link} {table : String} {item : InnerItem}

/-- The columns that are shown under their own names: those a table is joined by and those that the filter
reads. -/
def ownNames (selection : Selection) (joins : List Link) (table : String) : List String :=
  joins.flatMap (·.columnsFor table) ++ ((selection.find? table).getD { table }).filterColumns

/-- The names that things of a table are shown under. -/
def aliasNames (selection : Selection) (joins : List Link) (table : String) : List String :=
  let shown := (selection.find? table).getD { table }
  shown.dimensions.map (·.aliasName) ++ shown.measures.map (·.aliasName) ++ selection.ownNames joins table

/-- The names of the columns that are read from a table. -/
def columnNames (selection : Selection) (joins : List Link) (table : String) : List String :=
  let shown := (selection.find? table).getD { table }
  shown.dimensions.map (·.column) ++ shown.measures.map (·.column) ++ selection.ownNames joins table

/-- In no table do two names of columns differ in case alone, nor do two names that columns are shown under. -/
structure CaseIsClear (selection : Selection) (joins : List Link) : Prop where
  aliases : ∀ t ∈ participants selection joins, DifferBeyondCase (selection.aliasNames joins t)
  columns : ∀ t ∈ participants selection joins, DifferBeyondCase (selection.columnNames joins t)

theorem map_aliasName_asked :
    (selection.asked joins table).map (·.aliasName) = selection.aliasNames joins table := by
  simp [asked, aliasNames, ownNames, requestedItems, InnerItem.ofColumn, Function.comp_def]

theorem mem_columnNames {source : Option String} {column : String} (mem : item ∈ selection.asked joins table)
    (reads : item.expr = .column source column) : column ∈ selection.columnNames joins table := by
  unfold asked requestedItems at mem
  simp only [List.mem_append, List.mem_map] at mem
  unfold columnNames ownNames
  simp only [List.mem_append, List.mem_map]
  rcases mem with ((⟨c, hc, rfl⟩ | ⟨c, -, rfl⟩) | ⟨c, joined, rfl⟩) | ⟨c, filtered, rfl⟩
  · cases reads
    exact .inl (.inl ⟨c, hc, rfl⟩)
  · cases reads
  · cases reads
    exact .inr (.inl joined)
  · cases reads
    exact .inr (.inr filtered)

theorem CaseIsClear.compareAlike (clear : selection.CaseIsClear joins) (d d' : Dialect)
    (mem : table ∈ participants selection joins) : CompareAlike d d' (selection.asked joins table) where
  names a ha b hb := by
    have named : ∀ i ∈ selection.asked joins table, i.aliasName ∈ selection.aliasNames joins table :=
      fun i hi => map_aliasName_asked ▸ List.mem_map_of_mem hi
    have names := clear.aliases table mem
    rw [names.sameColumn_eq (named a ha) (named b hb), names.sameColumn_eq (named a ha) (named b hb)]
  values a ha b hb := by
    refine TableQuery.sameExpr_congr fun _ c _ c' reads reads' => ?_
    have names := clear.columns table mem
    rw [names.sameColumn_eq (mem_columnNames ha reads) (mem_columnNames hb reads'),
      names.sameColumn_eq (mem_columnNames ha reads) (mem_columnNames hb reads')]

end Selection

/-! ## Texts -/

namespace Sql

/-- The text of a token, if names are written as they are by `name`. -/
def Token.written (name : String → String) : Token → String
  | keyword word => word.text
  | ident n => name n
  | call n => n
  | punct mark => String.singleton mark
  | space => " "
  | line depth => String.ofList ('\n' :: List.replicate (2 * depth) ' ')
  | verbatim text => text

theorem Token.toList_written (d : Dialect) (t : Token) : (t.written d.quote).toList = t.chars d := by
  cases t <;> simp [written, chars, Dialect.quote]

theorem Query.toSql_eq_join (q : Query) (d : Dialect) :
    q.toSql d = String.join (q.tokens.map (Token.written d.quote)) := by
  rw [toSql, Token.render, ← String.toList_inj, String.toList_ofList, String.toList_join, List.flatMap_map]
  exact congrArg (q.tokens.flatMap ·) (funext fun t => (Token.toList_written d t).symm)

end Sql

/-- Two dialects that ignore the case of columns make the same statement of the same parts, or refuse them for
the same reason, and so do all dialects where case makes no difference. What is written then differs in the
delimiters of names alone. -/
theorem dialects_differ_in_delimiters (d d' : Dialect) (schema : Option String) (selection : Selection)
    (joins : List Link) (filter : Option String)
    (alike : d ≠ .postgres ∧ d' ≠ .postgres ∨ selection.CaseIsClear joins) :
    assemble d schema selection joins filter = assemble d' schema selection joins filter ∧
      ∀ a a', assemble d schema selection joins filter = .ok a →
        assemble d' schema selection joins filter = .ok a' →
          a.query.tokens = a'.query.tokens ∧
          a.query.toSql d = String.join (a.query.tokens.map (Token.written d.quote)) ∧
          a'.query.toSql d' = String.join (a.query.tokens.map (Token.written d'.quote)) := by
  have compared : ∀ t ∈ participants selection joins, CompareAlike d d' (selection.asked joins t) := by
    intro t mem
    rcases alike with ⟨folds, folds'⟩ | clear
    · exact compareAlike_of_ignoresColumnCase
        ((Dialect.ignoresColumnCase_of_ne folds).trans (Dialect.ignoresColumnCase_of_ne folds').symm)
    · exact clear.compareAlike d d' mem
  have same := assemble_congr compared schema filter
  refine ⟨same, fun a a' made made' => ?_⟩
  obtain rfl : a = a' := Except.ok.inj (made.symm.trans (same.trans made'))
  exact ⟨rfl, a.query.toSql_eq_join d, a.query.toSql_eq_join d'⟩

/-- Units and their sum by year. The filter reads a column that is shown already. -/
def factsByYear : Selection where
  tables := [⟨"fact", [⟨"Year", "Year"⟩], [⟨"units", .sum, "Units"⟩], ["Year"]⟩,
    ⟨"Term", [⟨"name", "Name"⟩], [], []⟩]
  outputs := [⟨"fact", "Year"⟩, ⟨"fact", "Units"⟩, ⟨"Term", "Name"⟩]

def termJoins : List Link :=
  [⟨"fact", "Term", ["term_ID"], ["ID"]⟩]

theorem facts_by_year_alike : factsByYear.CaseIsClear termJoins ∧
    assemble .postgres (some "app") factsByYear termJoins (some "fact.\"Year\" > 2000") =
      assemble .mysql (some "app") factsByYear termJoins (some "fact.\"Year\" > 2000") ∧
    ∃ a, assemble .mysql (some "app") factsByYear termJoins (some "fact.\"Year\" > 2000") = .ok a ∧
      a.query.toSql .postgres = String.join (a.query.tokens.map (Token.written Dialect.postgres.quote)) ∧
      a.query.toSql .mysql = String.join (a.query.tokens.map (Token.written Dialect.mysql.quote)) := by
  have clear : factsByYear.CaseIsClear termJoins := ⟨by decide, by decide⟩
  obtain ⟨same, texts⟩ := dialects_differ_in_delimiters .postgres .mysql (some "app") factsByYear
    termJoins (some "fact.\"Year\" > 2000") (.inr clear)
  have assembles : (assemble .mysql (some "app") factsByYear termJoins (some "fact.\"Year\" > 2000")).map
      (·.tables) = .ok ["fact", "Term"] := by
    decide
  obtain ⟨a, made, -⟩ := map_eq_ok_iff.1 assembles
  obtain ⟨-, text, text'⟩ := texts a a (same.trans made) made
  exact ⟨clear, same, a, made, text, text'⟩

/-- Where two names differ in case alone, a dialect that ignores case refuses what another shows. -/
example :
    let twins : Selection := ⟨[⟨"fact", [⟨"a", "X"⟩, ⟨"b", "x"⟩], [], []⟩], [⟨"fact", "X"⟩, ⟨"fact", "x"⟩]⟩
    (assemble .postgres none twins [] none).map (·.tables) = .ok ["fact"] ∧
      (assemble .duckdb none twins [] none).map (·.tables) = .error (.aliasConflict "fact" "x") := by
  decide

end Joinery
