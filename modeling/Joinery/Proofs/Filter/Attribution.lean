import Mathlib.Data.List.Nodup
import Joinery.Filter.Basic
import Joinery.Proofs.EraseDups
import Joinery.Proofs.Outcome
import Joinery.Proofs.Text.Blank

/-!
# The tables that the columns of a filter belong to

A filter is read with any parser (`SqlParser.readFilter_eq_some_iff`). Its columns are found by a visitor. If a visitor is
shown each expression before its parts (`SqlParser.VisitsParts`), a visit goes through the nodes of an expression in
this order (`VisitsParts.visit_eq_foldlM`). So the columns of a filter are the first occurrences among its references,
and the first reference that is no column is what it fails with (`VisitsParts.attributes`). Trees are visited in this
order (`visitsParts_tree`).
-/

namespace Joinery

open Text

namespace Filter

/-! ## Reading a filter -/

namespace SqlParser

variable {r : SqlParser} {d : Dialect} {text : String} {f : FilterExpr}

/-- What a filter is made of. -/
theorem readFilter_eq_some_iff : r.readFilter d text = .ok (some f) ↔ isBlankText text = false ∧ ∃ e columns,
    r.readWhole d (trim text) = .ok e ∧ r.columns d e = .ok columns ∧ f = ⟨trim text, columns⟩ := by
  unfold readFilter
  by_cases blank : isBlankText text = true
  · simp [blank]
  · simp only [blank, Bool.false_eq_true, if_false, bind_eq_ok_iff, true_and]
    constructor
    · rintro ⟨e, read, columns, found, eq⟩
      exact ⟨e, columns, read, found, (Option.some.inj (Except.ok.inj eq)).symm⟩
    · rintro ⟨e, columns, read, found, rfl⟩
      exact ⟨e, read, columns, found, rfl⟩

/-- Reading a filter again changes nothing. -/
theorem readFilter_text (accepted : r.readFilter d text = .ok (some f)) : r.readFilter d f.text = .ok (some f) := by
  obtain ⟨some_text, e, columns, read, found, rfl⟩ := readFilter_eq_some_iff.1 accepted
  refine readFilter_eq_some_iff.2 ⟨?_, e, columns, ?_, found, ?_⟩
  · rw [isBlankText_trim, some_text]
  · rw [trim_trim, read]
  · rw [trim_trim]

theorem readWhole_eq_ok_iff {e : r.Expr} :
    r.readWhole d text = .ok e ↔ ∃ ts, r.tokens? d text = some ts ∧ r.expression d ts = some (e, []) := by
  unfold readWhole
  cases r.tokens? d text with
  | none => simp
  | some ts =>
    simp only [Option.some.injEq, exists_eq_left']
    split
    · next refused => simp [refused]
    · next e' whole => simp [whole]
    · next e' t rest left => simp [left]

end SqlParser

/-! ## What is mentioned -/

namespace Mention

/-- The parts of a reference. -/
def names? : Mention → Option (List Name)
  | identifier name => some [name]
  | compound names => some names
  | other => none

/-- The column that is referred to by one table and one column. -/
def column? (d : Dialect) : Mention → Option FilterColumn
  | compound [table, column] => some ⟨table.resolved d, column.resolved d⟩
  | _ => none

/-- A reference, if this is one, has one name for a table and one for a column. -/
def IsQualified (m : Mention) : Prop :=
  ∀ names, m.names? = some names → names.length = 2

variable {d : Dialect} {m : Mention}

theorem addTo_of_qualified (qualified : m.IsQualified) (cs : List FilterColumn) :
    m.addTo d cs.eraseDups = .ok (cs ++ (m.column? d).toList).eraseDups := by
  cases m with
  | identifier name => exact absurd (qualified _ rfl) (by decide : 1 ≠ 2)
  | other => exact congrArg (fun all => Except.ok (List.eraseDups all)) (List.append_nil cs).symm
  | compound names =>
    obtain ⟨table, column, rfl⟩ := List.length_eq_two.1 (qualified _ rfl)
    rw [addTo, column?, Option.toList, eraseDups_concat_eq]

theorem addTo_unqualified {column : Name} (one : m.names? = some [column]) (found : List FilterColumn) :
    m.addTo d found = .error (.unqualified column.text) := by
  cases m with
  | identifier name =>
    cases one
    rfl
  | compound names =>
    cases one
    rfl
  | other => cases one

theorem addTo_overQualified {names : List Name} (refers : m.names? = some names) (not_one : names.length ≠ 1)
    (not_two : names.length ≠ 2) (found : List FilterColumn) :
    m.addTo d found = .error (.overQualified (".".intercalate (names.map (·.text)))) := by
  cases m with
  | identifier name =>
    cases refers
    exact absurd rfl not_one
  | other => cases refers
  | compound names =>
    cases refers
    match names with
    | [] => rfl
    | [_] => exact absurd rfl not_one
    | [_, _] => exact absurd rfl not_two
    | _ :: _ :: _ :: _ => rfl

theorem isQualified_of_addTo {found found' : List FilterColumn} (adds : m.addTo d found = .ok found') :
    m.IsQualified := by
  intro names refers
  by_contra not_two
  by_cases one : names.length = 1
  · obtain ⟨column, rfl⟩ := List.length_eq_one_iff.1 one
    rw [addTo_unqualified refers] at adds
    cases adds
  · rw [addTo_overQualified refers one not_two] at adds
    cases adds

theorem nodup_addTo {found found' : List FilterColumn} (nodup : found.Nodup) (adds : m.addTo d found = .ok found') :
    found'.Nodup := by
  unfold addTo at adds
  split at adds
  · cases adds
  · cases adds
  · cases adds
    split_ifs with seen
    · exact nodup
    · exact List.nodup_append.2 ⟨nodup, List.nodup_singleton _,
        fun c mem c' mem' same => seen (List.mem_singleton.1 mem' ▸ same ▸ mem)⟩
  · cases adds
  · cases adds
    exact nodup

end Mention

/-! ## Going through an expression -/

/-- A visitor is shown an expression and then its parts from the left to the right, and every expression has finitely
many expressions inside it. -/
structure SqlParser.VisitsParts (r : SqlParser) (parts : r.Expr → List r.Expr) : Prop where
  finite : WellFounded fun part e => part ∈ parts e
  visit_eq {σ ε : Type} (see : σ → r.Expr → Except ε σ) (s : σ) (e : r.Expr) :
    r.visit see s e = see s e >>= fun s => (parts e).foldlM (r.visit see) s

namespace SqlParser.VisitsParts

variable {r : SqlParser} {parts : r.Expr → List r.Expr}

/-- The expressions inside an expression, each before its parts. -/
def nodes (order : r.VisitsParts parts) (e : r.Expr) : List r.Expr :=
  e :: (parts e).attach.flatMap fun ⟨part, _⟩ => order.nodes part
termination_by order.finite.wrap e
decreasing_by exact ‹_ ∈ parts e›

variable (order : r.VisitsParts parts)

theorem nodes_eq (e : r.Expr) : order.nodes e = e :: (parts e).flatMap order.nodes := by
  rw [nodes]
  simp

/-- A visit goes through the nodes. -/
theorem visit_eq_foldlM {σ ε : Type} (see : σ → r.Expr → Except ε σ) (s : σ) (e : r.Expr) :
    r.visit see s e = (order.nodes e).foldlM see s := by
  induction e using order.finite.induction generalizing s with
  | _ e ih =>
    have parts_eq (es : List r.Expr) (among : ∀ part ∈ es, part ∈ parts e) (s : σ) :
        es.foldlM (r.visit see) s = (es.flatMap order.nodes).foldlM see s := by
      induction es generalizing s with
      | nil => rfl
      | cons part es ih_parts =>
        rw [List.forall_mem_cons] at among
        rw [List.foldlM_cons, List.flatMap_cons, List.foldlM_append, ih part among.1]
        exact bind_congr fun s => ih_parts among.2 s
    rw [order.visit_eq, nodes_eq, List.foldlM_cons]
    exact bind_congr fun s => parts_eq _ (fun _ => id) s

/-- What a visitor who notes everything has noted. -/
theorem visit_mention {ε : Type} (e : r.Expr) :
    r.visit (fun ms node => .ok (ms ++ [r.mention node])) [] e =
      (.ok ((order.nodes e).map r.mention) : Except ε (List Mention)) := by
  have notes (es : List r.Expr) (ms : List Mention) : es.foldlM (fun ms node => .ok (ms ++ [r.mention node])) ms =
      (.ok (ms ++ es.map r.mention) : Except ε (List Mention)) := by
    induction es generalizing ms with
    | nil => rw [List.map_nil, List.append_nil]; rfl
    | cons e es ih =>
      refine (ih (ms ++ [r.mention e])).trans ?_
      rw [List.append_assoc]
      rfl
  rw [order.visit_eq_foldlM]
  exact notes _ []

variable (d : Dialect)

/-- The columns that an expression mentions, in the order in which they come up. -/
def mentioned (e : r.Expr) : List FilterColumn :=
  (order.nodes e).filterMap fun node => (r.mention node).column? d

/-- Every reference in an expression has one name for a table and one for a column. -/
def IsQualified (e : r.Expr) : Prop :=
  ∀ node ∈ order.nodes e, (r.mention node).IsQualified

variable {d}

include order in
theorem nodup_columns {e : r.Expr} {columns : List FilterColumn} (found : r.columns d e = .ok columns) :
    columns.Nodup := by
  rw [SqlParser.columns, order.visit_eq_foldlM] at found
  exact foldlM_invariant (fun _ _ _ _ nodup adds => Mention.nodup_addTo nodup adds) List.nodup_nil found

theorem foldlM_addTo {es : List r.Expr} (qualified : ∀ e ∈ es, (r.mention e).IsQualified) (cs : List FilterColumn) :
    es.foldlM (fun found e => (r.mention e).addTo d found) cs.eraseDups =
      .ok (cs ++ es.filterMap fun e => (r.mention e).column? d).eraseDups := by
  induction es generalizing cs with
  | nil => rw [List.filterMap_nil, List.append_nil]; rfl
  | cons e es ih =>
    rw [List.forall_mem_cons] at qualified
    have split : (e :: es).filterMap (fun e => (r.mention e).column? d) =
        ((r.mention e).column? d).toList ++ es.filterMap fun e => (r.mention e).column? d := by
      cases found : (r.mention e).column? d <;> simp [found]
    rw [List.foldlM_cons, Mention.addTo_of_qualified qualified.1, split, ← List.append_assoc]
    exact ih qualified.2 _

/-- Where every reference is a column, these are listed in the order in which they first come up. -/
theorem columns_eq_ok {e : r.Expr} (qualified : order.IsQualified e) :
    r.columns d e = .ok (order.mentioned d e).eraseDups := by
  rw [SqlParser.columns, order.visit_eq_foldlM]
  exact foldlM_addTo qualified []

/-- The first reference that is no column decides what is wrong. -/
theorem columns_eq_error {e node : r.Expr} {before after : List r.Expr} (first : order.nodes e = before ++ node :: after)
    (fine : ∀ earlier ∈ before, (r.mention earlier).IsQualified) {error : FilterError}
    (wrong : ∀ found, (r.mention node).addTo d found = .error error) : r.columns d e = .error error := by
  have front : before.foldlM (fun found e => (r.mention e).addTo d found) [] =
      .ok (before.filterMap fun e => (r.mention e).column? d).eraseDups := foldlM_addTo fine []
  rw [SqlParser.columns, order.visit_eq_foldlM, first, List.foldlM_append, front]
  change (node :: after).foldlM (fun found e => (r.mention e).addTo d found) _ = _
  rw [List.foldlM_cons, wrong]
  rfl

theorem forall_isQualified_of_foldlM {es : List r.Expr} {found columns : List FilterColumn}
    (adds : es.foldlM (fun found e => (r.mention e).addTo d found) found = .ok columns) :
    ∀ e ∈ es, (r.mention e).IsQualified := by
  induction es generalizing found with
  | nil => exact List.forall_mem_nil _
  | cons e es ih =>
    rw [List.foldlM_cons] at adds
    obtain ⟨found', first, rest⟩ := bind_eq_ok_iff.1 adds
    exact List.forall_mem_cons.2 ⟨Mention.isQualified_of_addTo first, ih rest⟩

/-- The columns of an expression can be listed where every reference is a column. -/
theorem columns_eq_ok_iff {e : r.Expr} {columns : List FilterColumn} :
    r.columns d e = .ok columns ↔ order.IsQualified e ∧ columns = (order.mentioned d e).eraseDups := by
  constructor
  · intro found
    have walk := found
    rw [SqlParser.columns, order.visit_eq_foldlM] at walk
    have qualified : order.IsQualified e := forall_isQualified_of_foldlM walk
    refine ⟨qualified, ?_⟩
    rw [order.columns_eq_ok qualified] at found
    exact (Except.ok.inj found).symm
  · rintro ⟨qualified, rfl⟩
    exact order.columns_eq_ok qualified

end SqlParser.VisitsParts

end Filter

open Joinery.Filter

/-! ## Tables and their columns -/

namespace FilterExpr

variable {f : FilterExpr}

theorem mem_columnsFor_iff {table column : String} : column ∈ f.columnsFor table ↔ ⟨table, column⟩ ∈ f.columns := by
  rw [columnsFor, List.mem_map]
  constructor
  · rintro ⟨c, mem, rfl⟩
    obtain ⟨mem, of_table⟩ := List.mem_filter.1 mem
    rw [← of_decide_eq_true of_table]
    exact mem
  · exact fun mem => ⟨_, List.mem_filter.2 ⟨mem, decide_eq_true rfl⟩, rfl⟩

theorem mem_tables_iff {table : String} : table ∈ f.tables ↔ ∃ column, ⟨table, column⟩ ∈ f.columns := by
  rw [tables, List.mem_eraseDups, List.mem_map]
  constructor
  · rintro ⟨c, mem, rfl⟩
    exact ⟨c.column, mem⟩
  · rintro ⟨column, mem⟩
    exact ⟨_, mem, rfl⟩

theorem nodup_columnsFor (nodup : f.columns.Nodup) (table : String) : (f.columnsFor table).Nodup := by
  refine (nodup.filter _).map_on fun c mem c' mem' same => ?_
  have of_table : c.table = table := of_decide_eq_true (List.mem_filter.1 mem).2
  have of_table' : c'.table = table := of_decide_eq_true (List.mem_filter.1 mem').2
  calc c = ⟨c.table, c.column⟩ := rfl
    _ = ⟨c'.table, c'.column⟩ := by rw [of_table, of_table', same]

/-- The columns of every table together are all columns. -/
theorem perm_columns (nodup : f.columns.Nodup) :
    (f.tables.flatMap fun table => (f.columnsFor table).map (FilterColumn.mk table)).Perm f.columns := by
  have listed : (f.tables.flatMap fun table => (f.columnsFor table).map (FilterColumn.mk table)).Nodup := by
    refine List.nodup_flatMap.2 ⟨fun table _ => ?_, (nodup_eraseDups _).imp fun {table table'} ne => ?_⟩
    · exact (nodup_columnsFor nodup table).map fun _ _ same => (FilterColumn.mk.inj same).2
    · refine List.disjoint_left.2 fun c mem mem' => ne ?_
      obtain ⟨column, -, rfl⟩ := List.mem_map.1 mem
      obtain ⟨column', -, same⟩ := List.mem_map.1 mem'
      exact (FilterColumn.mk.inj same).1.symm
  refine (List.perm_ext_iff_of_nodup listed nodup).2 fun c => ?_
  simp only [List.mem_flatMap, List.mem_map, mem_columnsFor_iff, mem_tables_iff]
  constructor
  · rintro ⟨table, -, column, mem, rfl⟩
    exact mem
  · exact fun mem => ⟨c.table, ⟨c.column, mem⟩, c.column, mem, rfl⟩

end FilterExpr

/-! ## Every reference is attributed -/

/-- The first reference of a filter that is no column is what the filter fails with. Where all of them are columns, the
filter lists these in the order in which they first come up, and each of them belongs to one table. -/
theorem Filter.SqlParser.VisitsParts.attributes {r : SqlParser} {parts : r.Expr → List r.Expr} (order : r.VisitsParts parts)
    {d : Dialect} {text : String} {e : r.Expr} (some_text : isBlankText text = false)
    (read : r.readWhole d (trim text) = .ok e) :
    (∀ before node after, order.nodes e = before ++ node :: after →
      (∀ earlier ∈ before, (r.mention earlier).IsQualified) →
      (∀ column, (r.mention node).names? = some [column] → r.readFilter d text = .error (.unqualified column.text)) ∧
      (∀ names, (r.mention node).names? = some names → names.length ≠ 1 → names.length ≠ 2 →
        r.readFilter d text = .error (.overQualified (".".intercalate (names.map (·.text)))))) ∧
    (order.IsQualified e →
      ∃ f, r.readFilter d text = .ok (some f) ∧
        f.columns = ((order.nodes e).filterMap fun node => (r.mention node).column? d).eraseDups ∧
        f.tables.Nodup ∧ (∀ table ∈ f.tables, f.columnsFor table ≠ [] ∧ (f.columnsFor table).Nodup) ∧
        f.columns.Nodup ∧
        (f.tables.flatMap fun table => (f.columnsFor table).map (FilterColumn.mk table)).Perm f.columns) := by
  have reads : r.readFilter d text = (r.columns d e).map fun columns => some ⟨trim text, columns⟩ := by
    simp only [readFilter, some_text, Bool.false_eq_true, if_false, read]
    rfl
  constructor
  · intro before node after first fine
    have fails {error : FilterError} (wrong : ∀ found, (r.mention node).addTo d found = .error error) :
        r.readFilter d text = .error error := by
      rw [reads, order.columns_eq_error first fine wrong]
      rfl
    exact ⟨fun column one => fails (Mention.addTo_unqualified one), fun names refers not_one not_two =>
      fails (Mention.addTo_overQualified refers not_one not_two)⟩
  · intro qualified
    have nodup : (order.mentioned d e).eraseDups.Nodup := nodup_eraseDups _
    refine ⟨⟨trim text, (order.mentioned d e).eraseDups⟩, ?_, rfl, nodup_eraseDups _,
      fun table listed => ⟨?_, FilterExpr.nodup_columnsFor nodup table⟩, nodup, FilterExpr.perm_columns nodup⟩
    · rw [reads, order.columns_eq_ok qualified]
      rfl
    · obtain ⟨column, mem⟩ := FilterExpr.mem_tables_iff.1 listed
      exact List.ne_nil_of_mem (FilterExpr.mem_columnsFor_iff.2 mem)

/-! ## Trees -/

namespace Filter

namespace Tree

/-- What stands directly inside a tree. -/
def parts : Tree → List Tree
  | form _ parts => parts
  | reference _ | literal _ => []

theorem sizeOf_lt_of_mem_parts {part t : Tree} (mem : part ∈ t.parts) : sizeOf part < sizeOf t := by
  cases t with
  | reference names => cases mem
  | literal value => cases mem
  | form head inside =>
    have smaller : sizeOf part < sizeOf inside := List.sizeOf_lt_of_mem mem
    rw [form.sizeOf_spec]
    omega

theorem visitAll_eq_foldlM {σ ε : Type} (see : σ → Tree → Except ε σ) (s : σ) (ts : List Tree) :
    visitAll see s ts = ts.foldlM (visit see) s := by
  induction ts generalizing s with
  | nil => rfl
  | cons t ts ih =>
    rw [visitAll, List.foldlM_cons]
    exact bind_congr fun s => ih s

theorem visit_eq {σ ε : Type} (see : σ → Tree → Except ε σ) (s : σ) (t : Tree) :
    visit see s t = see s t >>= fun s => t.parts.foldlM (visit see) s := by
  cases t with
  | reference names => exact (bind_pure (see s (reference names))).symm
  | literal value => exact (bind_pure (see s (literal value))).symm
  | form head inside =>
    rw [visit]
    exact bind_congr fun s => visitAll_eq_foldlM see s inside

end Tree

/-- A tree is shown to a visitor before its parts. -/
theorem visitsParts_tree : sqlParser.VisitsParts Tree.parts where
  finite := Subrelation.wf Tree.sizeOf_lt_of_mem_parts (measure fun t : Tree => sizeOf t).wf
  visit_eq := Tree.visit_eq

namespace Tree

theorem nodes_reference (names : List Name) : visitsParts_tree.nodes (reference names) = [reference names] :=
  visitsParts_tree.nodes_eq _

theorem nodes_literal (value : Lexeme) : visitsParts_tree.nodes (literal value) = [literal value] :=
  visitsParts_tree.nodes_eq _

theorem nodes_form (head : String) (parts : List Tree) :
    visitsParts_tree.nodes (form head parts) = form head parts :: parts.flatMap visitsParts_tree.nodes :=
  visitsParts_tree.nodes_eq _

end Tree

end Filter

namespace FilterExpr

variable {d : Dialect} {text : String} {f : FilterExpr}

theorem ofText_text (accepted : ofText d text = .ok (some f)) : ofText d f.text = .ok (some f) :=
  SqlParser.readFilter_text accepted

theorem nodup_columns (accepted : ofText d text = .ok (some f)) : f.columns.Nodup := by
  obtain ⟨-, t, columns, -, found, rfl⟩ := SqlParser.readFilter_eq_some_iff.1 accepted
  exact visitsParts_tree.nodup_columns found

end FilterExpr

/-- Of two references that are no columns the first one counts. Names without delimiters are folded, and a column comes
up once. -/
theorem Filter.choice_attributed :
    sqlParser.readFilter .postgres "a.x = 1 AND s.a.y IN (z, a.x)" = .error (.overQualified "s.a.y") ∧
    ∃ f, sqlParser.readFilter .postgres "\"A b\".X = 1 OR B.y IN (b.Y, b.y)" = .ok (some f) ∧
      f.columns = [⟨"A b", "x"⟩, ⟨"b", "y"⟩] ∧
      (f.tables.flatMap fun table => (f.columnsFor table).map (FilterColumn.mk table)).Perm f.columns := by
  constructor
  · have read : (sqlParser.readWhole .postgres (trim "a.x = 1 AND s.a.y IN (z, a.x)") >>=
        sqlParser.visit (fun ms t => .ok (ms ++ [sqlParser.mention t])) []) = .ok
          ([.other, .other, .compound [⟨"a", false⟩, ⟨"x", false⟩], .other, .other] ++
            .compound [⟨"s", false⟩, ⟨"a", false⟩, ⟨"y", false⟩] ::
              [.identifier ⟨"z", false⟩, .compound [⟨"a", false⟩, ⟨"x", false⟩]]) := by decide +kernel
    obtain ⟨t, read, shown⟩ := bind_eq_ok_iff.1 read
    rw [visitsParts_tree.visit_mention] at shown
    obtain ⟨before, behind, split, front, back⟩ := List.map_eq_append_iff.1 (Except.ok.inj shown)
    obtain ⟨node, after, rfl, refers, -⟩ := List.map_eq_cons_iff.1 back
    have fine : ∀ m ∈ before.map sqlParser.mention, m.IsQualified := by
      rw [front]
      simp [Mention.IsQualified, Mention.names?]
    exact ((visitsParts_tree.attributes rfl read).1 before node after split fun earlier mem =>
      fine _ (List.mem_map_of_mem mem)).2 _ (congrArg Mention.names? refers) (by decide) (by decide)
  · have accepted : sqlParser.readFilter .postgres "\"A b\".X = 1 OR B.y IN (b.Y, b.y)" =
        .ok (some ⟨"\"A b\".X = 1 OR B.y IN (b.Y, b.y)", [⟨"A b", "x"⟩, ⟨"b", "y"⟩]⟩) := by decide +kernel
    obtain ⟨some_text, t, columns, read, found, -⟩ := SqlParser.readFilter_eq_some_iff.1 accepted
    obtain ⟨f, accepted', -, -, -, -, perm⟩ :=
      (visitsParts_tree.attributes some_text read).2 (visitsParts_tree.columns_eq_ok_iff.1 found).1
    cases accepted.symm.trans accepted'
    exact ⟨_, accepted, rfl, perm⟩

end Joinery
