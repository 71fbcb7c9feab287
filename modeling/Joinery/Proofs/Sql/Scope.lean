import Mathlib.Tactic.Basic
import Joinery.Sql.Query

/-!
# Names in a statement

A statement names columns of the derived tables that its source is made of. `Source.derivedTables` lists
them, `Source.joinScopes` those that the condition of each join can name, and `Resolves` says that a name
finds one table and there one item.
-/

namespace Joinery.Sql

/-! ## Columns of expressions -/

namespace Expr

mutual

/-- The columns that an expression reads, each with the table in front. What is copied is not looked
into. -/
def columnsRead : Expr → List (Option String × String)
  | column table name => [(table, name)]
  | eq left right => left.columnsRead ++ right.columnsRead
  | and parts => columnsReadAll parts
  | aggregate _ arg => arg.columnsRead
  | verbatim _ => []

def columnsReadAll : List Expr → List (Option String × String)
  | [] => []
  | e :: es => e.columnsRead ++ columnsReadAll es

end

theorem columnsReadAll_append (es fs : List Expr) :
    columnsReadAll (es ++ fs) = columnsReadAll es ++ columnsReadAll fs := by
  induction es with
  | nil => rfl
  | cons e es ih => rw [List.cons_append, columnsReadAll, ih, columnsReadAll, List.append_assoc]

theorem columnsReadAll_conjuncts (e : Expr) : columnsReadAll e.conjuncts = e.columnsRead := by
  cases e <;> simp [conjuncts, columnsReadAll, columnsRead]

theorem columnsRead_conj (a b : Expr) : (a.conj b).columnsRead = a.columnsRead ++ b.columnsRead := by
  rw [conj, columnsRead, columnsReadAll_append, columnsReadAll_conjuncts, columnsReadAll_conjuncts]

theorem columnsRead_foldl_conj (e : Expr) (es : List Expr) :
    (es.foldl conj e).columnsRead = e.columnsRead ++ columnsReadAll es := by
  induction es generalizing e with
  | nil => simp [columnsReadAll]
  | cons f es ih => rw [List.foldl_cons, ih, columnsRead_conj, columnsReadAll, List.append_assoc]

/-- Two expressions that have one value wherever they stand: they are equal, or columns whose names are
names of one column. -/
inductive SameValue (d : Dialect) : Expr → Expr → Prop
  | refl (e : Expr) : SameValue d e e
  | column {table : Option String} {a b : String} (same : d.sameColumn a b = true) :
      SameValue d (.column table a) (.column table b)

end Expr

/-! ## Derived tables -/

/-- A statement that stands for a table, under a name. -/
structure DerivedTable where
  name : String
  query : Query

mutual

/-- The derived tables that a source is made of. -/
def Source.derivedTables : Source → List DerivedTable
  | .table _ => []
  | .derived query name => [⟨name, query⟩]
  | .nested chain => chain.derivedTables

def JoinChain.derivedTables : JoinChain → List DerivedTable
  | .base source => source.derivedTables
  | .join chain source _ => chain.derivedTables ++ source.derivedTables

end

/-- The condition of a join and the derived tables that it can name: those joined before and the one that
is joined. -/
structure JoinScope where
  visible : List DerivedTable
  condition : Expr

mutual

/-- The joins of a source, but not those inside of its derived tables. -/
def Source.joinScopes : Source → List JoinScope
  | .table _ | .derived .. => []
  | .nested chain => chain.joinScopes

def JoinChain.joinScopes : JoinChain → List JoinScope
  | .base source => source.joinScopes
  | .join chain source condition =>
    chain.joinScopes ++ source.joinScopes ++
      [⟨chain.derivedTables ++ source.derivedTables, condition⟩]

end

/-! ## Resolution -/

/-- The items of a statement that have a name. -/
def Query.named (q : Query) (d : Dialect) (name : String) : List SelectItem :=
  q.select.filter fun item => item.aliasName.any (d.sameColumn · name)

/-- One of the visible tables has the name of the table, and one of its items that of the column. -/
def Resolves (d : Dialect) (visible : List DerivedTable) (table column : String) (item : SelectItem) :
    Prop :=
  ∃ q, visible.filter (·.name = table) = [⟨table, q⟩] ∧ q.named d column = [item]

theorem Resolves.unique {d : Dialect} {visible : List DerivedTable} {table column : String}
    {item item' : SelectItem} (h : Resolves d visible table column item)
    (h' : Resolves d visible table column item') : item = item' := by
  obtain ⟨q, tables, items⟩ := h
  obtain ⟨q', tables', items'⟩ := h'
  have same : [DerivedTable.mk table q] = [⟨table, q'⟩] := tables.symm.trans tables'
  cases same
  exact List.singleton_inj.1 (items.symm.trans items')

/-- A column of a derived table shows the column that has this name in the table itself. -/
def ShowsColumn (d : Dialect) (visible : List DerivedTable) (table column : String) : Prop :=
  ∃ item, Resolves d visible table column item ∧ item.expr.SameValue d (.ofTable table column)

end Joinery.Sql
