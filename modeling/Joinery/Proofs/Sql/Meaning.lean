import Joinery.Filter.Basic
import Joinery.Proofs.Dialect
import Joinery.Sql.Query

/-!
# What statements return

The rows of a statement over stored tables, with as many copies of each as the statement returns. An inner
join keeps the pairs that its condition accepts, a statement those that its filter accepts, and names of
columns are looked up as the dialect compares them. What `=` and the text of a filter decide is left to
`Database`. Nothing is returned where a name finds no column or more than one, and statements that group
are left out.
-/

namespace Joinery.Sql

/-- Stored rows, and what is not up to the statement. -/
structure Database (V : Type) where
  /-- A stored row has one value for all names of a column, under the spelling that they share. -/
  rows : TableName → List (String → V)
  equal : V → V → Bool
  /-- What the text of a filter says of the values of the columns that it reads. -/
  accepts : String → List V → Bool

variable {V : Type}

/-! ## Rows and names -/

/-- A row that a statement returns, value by value under the names of its items. -/
abbrev Row (V : Type) := List (String × V)

/-- The value under a name that is a name of one column alone. -/
def Row.read? (d : Dialect) (row : Row V) (name : String) : Option V :=
  match row.filter fun c => d.sameColumn c.1 name with
  | [c] => some c.2
  | _ => none

/-- A table that expressions can name, and the values of one of its rows. -/
structure Binding (V : Type) where
  table : String
  read? : String → Option V

/-- What the columns of a table stand for where some tables can be named. -/
def read? (scope : List (Binding V)) (table column : String) : Option V :=
  match scope.filter (·.table = table) with
  | [b] => b.read? column
  | _ => none

/-- Whether two things hold, if both are decided. -/
def both? (a b : Option Bool) : Option Bool := do
  return (← a) && (← b)

theorem both?_assoc (a b c : Option Bool) : both? (both? a b) c = both? a (both? b c) := by
  cases a <;> cases b <;> cases c <;> simp [both?, Bool.and_assoc]

theorem some_true_both? (a : Option Bool) : both? (some true) a = a := by
  cases a <;> simp [both?]

theorem both?_some_true (a : Option Bool) : both? a (some true) = a := by
  cases a <;> simp [both?]

theorem both?_eq_some_true_iff {a b : Option Bool} :
    both? a b = some true ↔ a = some true ∧ b = some true := by
  cases a <;> cases b <;> simp [both?]

namespace Expr

/-- The value of a column. -/
def value? (scope : List (Binding V)) : Expr → Option V
  | column (some table) name => Sql.read? scope table name
  | _ => none

mutual

/-- What a condition decides. -/
def holds? (d : Dialect) (db : Database V) (scope : List (Binding V)) : Expr → Option Bool
  | eq left right => do return db.equal (← left.value? scope) (← right.value? scope)
  | and parts => allHold? d db scope parts
  | verbatim text =>
    match FilterExpr.ofText d text with
    | .ok (some f) => (f.columns.mapM fun c => Sql.read? scope c.table c.column).map (db.accepts f.text)
    | _ => none
  | column .. | aggregate .. => none

def allHold? (d : Dialect) (db : Database V) (scope : List (Binding V)) : List Expr → Option Bool
  | [] => some true
  | e :: es => both? (e.holds? d db scope) (allHold? d db scope es)

end

end Expr

/-! ## Statements -/

/-- The elements that are accepted. -/
def keep? {α : Type} (accepts? : α → Option Bool) : List α → Option (List α)
  | [] => some []
  | a :: l => do
    let accepted ← accepts? a
    let rest ← keep? accepts? l
    return if accepted then a :: rest else rest

/-- The name of a column. -/
def Expr.columnName : Expr → String
  | .column _ name => name
  | _ => ""

/-- The name of an item in the result. -/
def SelectItem.resultName (item : SelectItem) : String :=
  item.aliasName.getD item.expr.columnName

mutual

/-- The rows that a statement returns. -/
def Query.rows? (d : Dialect) (db : Database V) : Query → Option (List (Row V))
  | .mk _ none _ _ => none
  | .mk items (some source) condition groupBy =>
    if groupBy.isEmpty && !items.any (·.expr.isAggregate) then do
      let scopes ← source.scopes? d db
      let kept ← keep? (fun scope => (condition.map (·.holds? d db scope)).getD (some true)) scopes
      kept.mapM fun scope => items.mapM fun item => (item.expr.value? scope).map (item.resultName, ·)
    else none

/-- What the rows of a source give to the expressions around it. -/
def Source.scopes? (d : Dialect) (db : Database V) : Source → Option (List (List (Binding V)))
  | .table ref => some ((db.rows ref).map fun row => [⟨ref.table, fun k => some (row (d.columnKey k))⟩])
  | .derived query name => do
    return (← query.rows? d db).map fun row => [⟨name, row.read? d⟩]
  | .nested chain => chain.scopes? d db

def JoinChain.scopes? (d : Dialect) (db : Database V) : JoinChain → Option (List (List (Binding V)))
  | .base source => source.scopes? d db
  | .join chain source condition => do
    let left ← chain.scopes? d db
    let right ← source.scopes? d db
    keep? (condition.holds? d db) (left.flatMap fun scope => right.map (scope ++ ·))

end

/-- The rows of a statement that does not group. -/
theorem Query.rows?_of_scopes? {d : Dialect} {db : Database V} {items : List SelectItem}
    {source : Source} {condition : Option Expr} {scopes : List (List (Binding V))}
    (plain : ∀ i ∈ items, i.expr.isAggregate = false) (from_eq : source.scopes? d db = some scopes) :
    (Query.mk items (some source) condition []).rows? d db = (do
      let kept ← keep? (fun scope => (condition.map (·.holds? d db scope)).getD (some true)) scopes
      kept.mapM fun scope =>
        items.mapM fun item => (item.expr.value? scope).map (item.resultName, ·)) := by
  have no_aggregate : (items.any fun i => i.expr.isAggregate) = false := by
    rw [List.any_eq_false]
    intro i mem
    rw [plain i mem]
    exact Bool.false_ne_true
  rw [Query.rows?, from_eq, no_aggregate]
  rfl

/-! ## Conditions -/

namespace Expr

variable {d : Dialect} {db : Database V} {scope : List (Binding V)}

theorem allHold?_eq_mapM (es : List Expr) :
    allHold? d db scope es = (es.mapM (holds? d db scope)).map (·.all id) := by
  induction es with
  | nil => rfl
  | cons e es ih =>
    rw [allHold?, ih, List.mapM_cons]
    cases e.holds? d db scope with
    | none => rfl
    | some b =>
      cases es.mapM (holds? d db scope) with
      | none => rfl
      | some bs => rfl

theorem allHold?_conjuncts (e : Expr) : allHold? d db scope e.conjuncts = e.holds? d db scope := by
  cases e with
  | and parts => rw [conjuncts, holds?]
  | _ => simp [conjuncts, allHold?, both?_some_true]

theorem allHold?_append (es fs : List Expr) : allHold? d db scope (es ++ fs) =
    both? (allHold? d db scope es) (allHold? d db scope fs) := by
  induction es with
  | nil => rw [List.nil_append, allHold?, some_true_both?]
  | cons e es ih => rw [List.cons_append, allHold?, ih, allHold?, both?_assoc]

/-- A conjunction holds if all of its parts do. -/
theorem holds?_foldl_conj (e : Expr) (es : List Expr) :
    (es.foldl conj e).holds? d db scope = allHold? d db scope (e :: es) := by
  induction es generalizing e with
  | nil => rw [List.foldl_nil, allHold?, allHold?, both?_some_true]
  | cons f es ih =>
    rw [List.foldl_cons, ih, allHold?, conj, holds?, allHold?_append, allHold?_conjuncts,
      allHold?_conjuncts, both?_assoc, allHold?, allHold?]

end Expr

/-! ## Elements that are kept -/

section Keep

variable {α β : Type}

theorem keep?_congr {p q : α → Option Bool} {l : List α} (same : ∀ a ∈ l, p a = q a) :
    keep? p l = keep? q l := by
  induction l with
  | nil => rfl
  | cons a l ih =>
    rw [List.forall_mem_cons] at same
    rw [keep?, keep?, same.1, ih same.2]

theorem keep?_map {p : β → Option Bool} (f : α → β) (l : List α) :
    keep? p (l.map f) = (keep? (fun a => p (f a)) l).map (List.map f) := by
  induction l with
  | nil => rfl
  | cons a l ih =>
    rw [List.map_cons, keep?, keep?, ih]
    cases p (f a) with
    | none => rfl
    | some kept =>
      cases keep? (fun a => p (f a)) l with
      | none => rfl
      | some rest => cases kept <;> rfl

theorem keep?_true (l : List α) : keep? (fun _ => some true) l = some l := by
  induction l with
  | nil => rfl
  | cons a l ih =>
    rw [keep?, ih]
    rfl

/-- Where everything is decided, what is kept are the accepted elements. -/
theorem keep?_eq_some {p : α → Option Bool} {l : List α} (decided : ∀ a ∈ l, (p a).isSome) :
    keep? p l = some (l.filter fun a => p a = some true) := by
  induction l with
  | nil => rfl
  | cons a l ih =>
    rw [List.forall_mem_cons] at decided
    obtain ⟨kept, first⟩ := Option.isSome_iff_exists.1 decided.1
    rw [keep?, first, ih decided.2]
    cases kept <;> simp [first]

end Keep

end Joinery.Sql
