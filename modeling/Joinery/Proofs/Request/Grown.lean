import Joinery.Proofs.Request.Selection

/-!
# Selections that grow

A selection grows by one column after another (`grown`): the table of the column is looked up among those
that are there, or comes behind them, and shows one column more. That is the selection of a request
(`ofRequest_eq_grown`), as every step keeps it a collection by tables (`collect_concat_dimension` and the
like).
-/

namespace Joinery

namespace Selection

/-! ## One more column -/

/-- Changes what a table shows. A table that shows nothing yet comes behind the others. -/
def amend (change : TableSelection → TableSelection) (table : String) :
    List TableSelection → List TableSelection
  | [] => [change { table }]
  | p :: rest => if p.table = table then change p :: rest else p :: amend change table rest

/-- An element behind the others, unless it is there. -/
def withNew {α : Type} [DecidableEq α] (l : List α) (a : α) : List α :=
  if a ∈ l then l else l ++ [a]

def addDimension (s : Selection) (c : String × Dimension) : Selection where
  tables := amend (fun p => { p with dimensions := p.dimensions ++ [c.2] }) c.1 s.tables
  outputs := withNew s.outputs ⟨c.1, c.2.aliasName⟩

def addMeasure (s : Selection) (c : String × Measure) : Selection where
  tables := amend (fun p => { p with measures := p.measures ++ [c.2] }) c.1 s.tables
  outputs := withNew s.outputs ⟨c.1, c.2.aliasName⟩

def addFilterColumn (s : Selection) (c : String × String) : Selection :=
  { s with
    tables := amend (fun p => { p with filterColumns := withNew p.filterColumns c.2 }) c.1 s.tables }

/-- The selection of a request, grown by the columns of its entries and then of its filter. -/
def grown (r : QueryRequest) (filter : Option FilterExpr) : Except RequestError Selection := do
  let s ← r.dimensionData.foldlM (fun s entry => entry.columnsOf.map (·.foldl addDimension s)) ⟨[], []⟩
  let s ← r.measureData.foldlM (fun s entry => entry.columnsOf.map (·.foldl addMeasure s)) s
  return (filterReads filter).foldl addFilterColumn s

section

variable {change : TableSelection → TableSelection} {table : String}

theorem amend_of_not_mem {tables : List TableSelection} (absent : table ∉ tables.map (·.table)) :
    amend change table tables = tables ++ [change { table }] := by
  induction tables with
  | nil => rfl
  | cons p rest ih =>
    rw [List.map_cons, List.mem_cons, not_or] at absent
    rw [amend, if_neg (Ne.symm absent.1), ih absent.2, List.cons_append]

theorem amend_of_mem {tables : List TableSelection} (nodup : (tables.map (·.table)).Nodup)
    (mem : table ∈ tables.map (·.table)) :
    amend change table tables = tables.map fun p => if p.table = table then change p else p := by
  induction tables with
  | nil => cases mem
  | cons p rest ih =>
    rw [List.map_cons, List.nodup_cons] at nodup
    rw [amend, List.map_cons]
    split_ifs with found
    · have others : ∀ q ∈ rest, (if q.table = table then change q else q) = q := by
        intro q hq
        refine if_neg fun (same : q.table = table) => nodup.1 ?_
        rw [found, ← same]
        exact List.mem_map_of_mem hq
      rw [List.map_congr_left others, List.map_id']
    · have later : table ∈ rest.map (·.table) := by
        simpa [Ne.symm found] using mem
      rw [ih nodup.2 later]

/-- One more name among those of tables, and the table of that name changed. -/
theorem amend_map_eraseDups {names : List String} {shown shown' : String → TableSelection}
    (named : ∀ t, (shown t).table = t) (new : table ∉ names → shown table = { table })
    (changed : shown' table = change (shown table)) (others : ∀ t, t ≠ table → shown' t = shown t) :
    amend change table (names.eraseDups.map shown) = (names ++ [table]).eraseDups.map shown' := by
  have names_eq : (names.eraseDups.map shown).map (·.table) = names.eraseDups := by
    rw [List.map_map]
    exact (List.map_congr_left fun t _ => named t).trans (List.map_id' _)
  rw [eraseDups_concat]
  split_ifs with mem
  · rw [amend_of_mem (by rw [names_eq]; exact nodup_eraseDups names)
      (by rw [names_eq]; exact List.mem_eraseDups.2 mem), List.map_map]
    refine List.map_congr_left fun t _ => ?_
    rw [Function.comp_apply, named]
    split_ifs with same
    · rw [same, changed]
    · rw [others t same]
  · rw [amend_of_not_mem (by rw [names_eq]; exact mt List.mem_eraseDups.1 mem), List.map_append,
      List.map_singleton, changed, new mem]
    congr 1
    refine List.map_congr_left fun t ht => (others t ?_).symm
    rintro rfl
    exact mem (List.mem_eraseDups.1 ht)

end

theorem ofTable_concat {α : Type} (table : String) (columns : List (String × α)) (c : String × α) :
    ofTable table (columns ++ [c]) =
      if c.1 = table then ofTable table columns ++ [c.2] else ofTable table columns := by
  by_cases own : c.1 = table <;> simp [ofTable, own]

theorem eraseDups_concat_withNew {α : Type} [DecidableEq α] (l : List α) (a : α) :
    (l ++ [a]).eraseDups = withNew l.eraseDups a :=
  eraseDups_concat_eq l a

/-! ## Collecting column by column -/

section

variable (dimensions : List (String × Dimension)) (measures : List (String × Measure))
  (filterColumns : List (String × String))

theorem collect_concat_dimension (c : String × Dimension) :
    collect (dimensions ++ [c]) [] [] = addDimension (collect dimensions [] []) c := by
  have tables : (collect (dimensions ++ [c]) [] []).tables =
      amend (fun p => { p with dimensions := p.dimensions ++ [c.2] }) c.1
        (collect dimensions [] []).tables := by
    simp only [collect, List.map_append, List.map_singleton, List.map_nil, List.append_nil]
    refine (amend_map_eraseDups (fun _ => rfl) (fun new => ?_) ?_ fun t other => ?_).symm
    · rw [ofTable_eq_nil new]
      rfl
    · rw [ofTable_concat, if_pos rfl]
    · rw [ofTable_concat, if_neg (Ne.symm other)]
  have outputs : (collect (dimensions ++ [c]) [] []).outputs =
      withNew (collect dimensions [] []).outputs ⟨c.1, c.2.aliasName⟩ := by
    simp only [collect, List.map_append, List.map_singleton, List.map_nil, List.append_nil]
    exact eraseDups_concat_withNew _ _
  rw [addDimension, ← tables, ← outputs]

theorem collect_concat_measure (c : String × Measure) :
    collect dimensions (measures ++ [c]) [] = addMeasure (collect dimensions measures []) c := by
  have tables : (collect dimensions (measures ++ [c]) []).tables =
      amend (fun p => { p with measures := p.measures ++ [c.2] }) c.1
        (collect dimensions measures []).tables := by
    simp only [collect, List.map_append, List.map_singleton, List.map_nil, List.append_nil,
      ← List.append_assoc]
    refine (amend_map_eraseDups (fun _ => rfl) (fun new => ?_) ?_ fun t other => ?_).symm
    · rw [List.mem_append, not_or] at new
      rw [ofTable_eq_nil new.1, ofTable_eq_nil new.2]
      rfl
    · rw [ofTable_concat, if_pos rfl]
    · rw [ofTable_concat, if_neg (Ne.symm other)]
  have outputs : (collect dimensions (measures ++ [c]) []).outputs =
      withNew (collect dimensions measures []).outputs ⟨c.1, c.2.aliasName⟩ := by
    simp only [collect, List.map_append, List.map_singleton, ← List.append_assoc]
    exact eraseDups_concat_withNew _ _
  rw [addMeasure, ← tables, ← outputs]

theorem collect_concat_filterColumn (c : String × String) :
    collect dimensions measures (filterColumns ++ [c]) =
      addFilterColumn (collect dimensions measures filterColumns) c := by
  have tables : (collect dimensions measures (filterColumns ++ [c])).tables =
      amend (fun p => { p with filterColumns := withNew p.filterColumns c.2 }) c.1
        (collect dimensions measures filterColumns).tables := by
    simp only [collect, List.map_append, List.map_singleton, ← List.append_assoc]
    refine (amend_map_eraseDups (fun _ => rfl) (fun new => ?_) ?_ fun t other => ?_).symm
    · rw [List.mem_append, List.mem_append, not_or, not_or] at new
      rw [ofTable_eq_nil new.1.1, ofTable_eq_nil new.1.2, ofTable_eq_nil new.2]
      rfl
    · rw [ofTable_concat, if_pos rfl, eraseDups_concat_withNew]
    · rw [ofTable_concat, if_neg (Ne.symm other)]
  rw [addFilterColumn, ← tables]
  rfl

/-- Collecting all columns is growing by one after another. -/
theorem collect_eq_foldl : collect dimensions measures filterColumns =
    filterColumns.foldl addFilterColumn (measures.foldl addMeasure (dimensions.foldl addDimension ⟨[], []⟩)) := by
  induction filterColumns using List.reverseRecOn with
  | append_singleton filterColumns c ih =>
    rw [collect_concat_filterColumn, ih, List.foldl_concat]
  | nil =>
    induction measures using List.reverseRecOn with
    | append_singleton measures c ih => rw [collect_concat_measure, List.foldl_concat, ih]; rfl
    | nil =>
      induction dimensions using List.reverseRecOn with
      | append_singleton dimensions c ih => rw [collect_concat_dimension, List.foldl_concat, ih]; rfl
      | nil => rfl

end

/-- A selection is what grows from the columns of a request and its filter. -/
theorem ofRequest_eq_grown (r : QueryRequest) (filter : Option FilterExpr) :
    ofRequest r filter = grown r filter := by
  rw [ofRequest_eq, grown]
  simp only [foldlM_map_foldl]
  cases r.dimensionData.mapM DimensionEntry.columnsOf with
  | error e => rfl
  | ok dimensions =>
    cases r.measureData.mapM MeasureEntry.columnsOf with
    | error e => rfl
    | ok measures =>
      exact congrArg Except.ok (collect_eq_foldl dimensions.flatten measures.flatten (filterReads filter))

end Selection

end Joinery
