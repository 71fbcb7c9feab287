import Joinery.Catalog.JsonRows
import Joinery.Proofs.Graph.Catalog
import Joinery.Proofs.Text.Blank

/-!
# Positions of columns in catalog rows

A row of a catalog lists the columns of each of its two tables, and blank pieces of a list do not count. So the
columns of a link are matched by their number among the pieces that count, not by their position in the row:
`LinkEntry.matches_by_count` says so of every row, and which rows a graph takes. Positions are kept just where the
pieces that count stand at the same positions on both sides (`LinkEntry.Aligned`). A row for which this is not so
may still be taken (`shifted_row_is_taken`).
-/

namespace Joinery

open Text

/-! ## Pieces that count -/

/-- The pieces of a written list, blank ones among them. -/
def WrittenColumns.pieces (delimiter : String) : WrittenColumns → List String
  | delimited text =>
    (Text.pieces (if delimiter = "" then defaultDelimiter else delimiter).toList
      (withoutParentheses (trimChars text.toList))).map String.ofList
  | listed columns => columns

/-- The pieces that count, trimmed and with their positions among all pieces. -/
def WrittenColumns.standing (delimiter : String) (w : WrittenColumns) : List (String × Nat) :=
  ((w.pieces delimiter).map trim).zipIdx.filter (·.1 ≠ "")

/-- The positions of the pieces that count. -/
def WrittenColumns.positions (delimiter : String) (w : WrittenColumns) : List Nat :=
  (w.standing delimiter).map Prod.snd

section Standing

variable {delimiter : String} {w : WrittenColumns}

theorem WrittenColumns.columns_eq_columnNames (delimiter : String) (w : WrittenColumns) :
    w.columns delimiter = columnNames (w.pieces delimiter) := by
  cases w <;> rfl

/-- The columns are the pieces that count. -/
theorem WrittenColumns.map_fst_standing (delimiter : String) (w : WrittenColumns) :
    (w.standing delimiter).map Prod.fst = w.columns delimiter := by
  have counts : (fun name : String => decide (name ≠ "")) ∘ Prod.fst = fun p : String × Nat => decide (p.1 ≠ "") :=
    rfl
  rw [columns_eq_columnNames, columnNames, standing, ← counts, ← List.filter_map, List.zipIdx_map_fst]

theorem WrittenColumns.length_positions (delimiter : String) (w : WrittenColumns) :
    (w.positions delimiter).length = (w.columns delimiter).length := by
  rw [positions, ← map_fst_standing, List.length_map, List.length_map]

/-- A piece that counts is found at its position. -/
theorem WrittenColumns.exists_position {j : Nat} {name : String} (found : (w.columns delimiter)[j]? = some name) :
    ∃ i : Nat, (w.positions delimiter)[j]? = some i ∧ ((w.pieces delimiter).map trim)[i]? = some name := by
  rw [← map_fst_standing, List.getElem?_map, Option.map_eq_some_iff] at found
  obtain ⟨⟨name', i⟩, found, rfl⟩ := found
  refine ⟨i, by rw [positions, List.getElem?_map, found]; rfl, ?_⟩
  exact List.mem_zipIdx_iff_getElem?.1 (List.mem_filter.1 (List.mem_of_getElem? found)).1

end Standing

/-! ## Rows -/

/-- The pieces of a row that count stand at the same positions on both sides. -/
def LinkEntry.Aligned (delimiter : String) (e : LinkEntry) : Prop :=
  e.leftColumns.positions delimiter = e.rightColumns.positions delimiter

instance (delimiter : String) (e : LinkEntry) : Decidable (e.Aligned delimiter) :=
  inferInstanceAs (Decidable (_ = _))

/-- The texts of a row at the same position, trimmed. -/
def LinkEntry.SamePosition (delimiter : String) (e : LinkEntry) (p : String × String) : Prop :=
  ∃ i : Nat, ((e.leftColumns.pieces delimiter).map trim)[i]? = some p.1 ∧
    ((e.rightColumns.pieces delimiter).map trim)[i]? = some p.2

/-- A graph can take a row: its tables have different names, and as many columns, of which there are some. -/
structure LinkEntry.IsTaken (delimiter : String) (e : LinkEntry) : Prop where
  left_named : isBlankText e.leftTable = false
  right_named : isBlankText e.rightTable = false
  tables_ne : trim e.leftTable ≠ trim e.rightTable
  some_piece : e.leftColumns.positions delimiter ≠ []
  same_number : (e.leftColumns.positions delimiter).length = (e.rightColumns.positions delimiter).length

/-- The pieces of a row that count are matched one by one, from both ends of an edge. -/
structure LinkEntry.MatchedIn (delimiter : String) (e : LinkEntry) (g : JoinGraph) : Prop where
  link? : g.link? (trim e.leftTable) (trim e.rightTable) = some (e.link delimiter)
  link?_reversed : g.link? (trim e.rightTable) (trim e.leftTable) = some (e.link delimiter).reversed
  /-- Each piece that counts is matched once. -/
  length_predicates : (e.link delimiter).predicates.length = (e.leftColumns.positions delimiter).length
  /-- The first piece that counts is matched with the first one, the second with the second, and so on. -/
  predicates : ∀ (j : Nat) (p : String × String), (e.link delimiter).predicates[j]? = some p → ∃ i i' : Nat,
    (e.leftColumns.positions delimiter)[j]? = some i ∧ (e.rightColumns.positions delimiter)[j]? = some i' ∧
      ((e.leftColumns.pieces delimiter).map trim)[i]? = some p.1 ∧
      ((e.rightColumns.pieces delimiter).map trim)[i']? = some p.2

section Rows

variable {delimiter : String} {e : LinkEntry} {g g' : JoinGraph}

theorem LinkEntry.leftTable_link : (e.link delimiter).leftTable = trim e.leftTable := rfl

theorem LinkEntry.rightTable_link : (e.link delimiter).rightTable = trim e.rightTable := rfl

theorem LinkEntry.usable_link_iff : (e.link delimiter).Usable ↔ e.IsTaken delimiter := by
  have some_piece : e.leftColumns.positions delimiter ≠ [] ↔ (e.link delimiter).leftColumns ≠ [] := by
    rw [Ne, Ne, ← List.length_eq_zero_iff, WrittenColumns.length_positions, List.length_eq_zero_iff]
    rfl
  have same_number : (e.leftColumns.positions delimiter).length = (e.rightColumns.positions delimiter).length ↔
      (e.link delimiter).leftColumns.length = (e.link delimiter).rightColumns.length := by
    rw [WrittenColumns.length_positions, WrittenColumns.length_positions]
    rfl
  constructor
  · rintro ⟨left, right, ne, columns, lengths⟩
    exact ⟨(isBlankText_trim _).symm.trans left, (isBlankText_trim _).symm.trans right, ne, some_piece.2 columns,
      same_number.2 lengths⟩
  · rintro ⟨left, right, ne, columns, lengths⟩
    exact ⟨(isBlankText_trim _).trans left, (isBlankText_trim _).trans right, ne, some_piece.1 columns,
      same_number.1 lengths⟩

theorem LinkEntry.exists_add_iff : (∃ g', g.add (e.link delimiter) = .ok g') ↔ e.IsTaken delimiter := by
  rw [← usable_link_iff]
  exact ⟨fun ⟨_, added⟩ => (JoinGraph.add_eq_ok_iff.1 added).1,
    fun usable => ⟨_, JoinGraph.add_eq_ok_iff.2 ⟨usable, rfl⟩⟩⟩

theorem JoinGraph.link?_add_self {l : Link} (added : g.add l = .ok g') :
    g'.link? l.leftTable l.rightTable = some l := by
  rw [link?, links_of_add added, if_pos rfl, find?_setLink, if_pos rfl]

theorem JoinGraph.link?_add_reversed {l : Link} (added : g.add l = .ok g') :
    g'.link? l.rightTable l.leftTable = some l.reversed := by
  have ne := (add_eq_ok_iff.1 added).1.tables_ne
  rw [link?, links_of_add added, if_neg ne.symm, if_pos rfl, find?_setLink]
  exact if_pos rfl

theorem LinkEntry.matchedIn_of_add (added : g.add (e.link delimiter) = .ok g') : e.MatchedIn delimiter g' := by
  have usable := (JoinGraph.add_eq_ok_iff.1 added).1
  have kept := JoinGraph.link?_add_self added
  have kept_reversed := JoinGraph.link?_add_reversed added
  rw [leftTable_link, rightTable_link] at kept kept_reversed
  refine ⟨kept, kept_reversed, ?_, fun j p found => ?_⟩
  · rw [Link.predicates, List.length_zip, ← usable.length_eq, Nat.min_self, WrittenColumns.length_positions]
    rfl
  · obtain ⟨left, right⟩ := List.getElem?_zip_eq_some.1 found
    obtain ⟨i, place, piece⟩ := WrittenColumns.exists_position left
    obtain ⟨i', place', piece'⟩ := WrittenColumns.exists_position right
    exact ⟨i, i', place, place', piece, piece'⟩

/-- What a graph does with a row: it takes it or not by the number of pieces that count, and matches these by their
number. Where they are aligned, it thereby matches what stands at the same position. -/
theorem LinkEntry.matches_by_count (delimiter : String) (e : LinkEntry) (g : JoinGraph) :
    ((∃ g', g.add (e.link delimiter) = .ok g') ↔ e.IsTaken delimiter) ∧
    (¬ e.IsTaken delimiter → ∃ fault,
      g.add (e.link delimiter) = .error (.badLink (trim e.leftTable) (trim e.rightTable) fault)) ∧
    ∀ g', g.add (e.link delimiter) = .ok g' → e.MatchedIn delimiter g' ∧
      (e.Aligned delimiter → ∀ p ∈ (e.link delimiter).predicates, e.SamePosition delimiter p) := by
  refine ⟨exists_add_iff, fun not_taken => ?_, fun g' added => ?_⟩
  · have not_usable : (e.link delimiter).fault? ≠ none :=
      mt (usable_link_iff.1 ∘ Link.fault?_eq_none_iff.1) not_taken
    obtain ⟨fault, is_fault⟩ := Option.ne_none_iff_exists'.1 not_usable
    exact ⟨fault, JoinGraph.add_eq_error_iff.2 ⟨fault, is_fault, rfl⟩⟩
  · have matched := matchedIn_of_add added
    refine ⟨matched, fun aligned p mem => ?_⟩
    obtain ⟨j, found⟩ := List.mem_iff_getElem?.1 mem
    obtain ⟨i, i', place, place', piece, piece'⟩ := matched.predicates j p found
    have same : i = i' := by
      rw [← aligned, place] at place'
      exact Option.some.inj place'
    exact ⟨i, piece, same ▸ piece'⟩

end Rows

/-- Blank pieces at the same positions are passed over together: `line` stays with `line`. -/
theorem aligned_row_matched :
    let e : LinkEntry := ⟨" item", "order ", .delimited "(order_id, , line,)", .listed ["id", "", "line"]⟩
    (∃ g', JoinGraph.empty.add (e.link ",") = .ok g' ∧ e.MatchedIn "," g') ∧
      (e.link ",").predicates = [("order_id", "id"), ("line", "line")] ∧
      ∀ p ∈ (e.link ",").predicates, e.SamePosition "," p := by
  intro e
  have taken : e.IsTaken "," := ⟨by decide, by decide, by decide, by decide, by decide⟩
  obtain ⟨accepted, -, kept⟩ := LinkEntry.matches_by_count "," e .empty
  obtain ⟨g', added⟩ := accepted.2 taken
  obtain ⟨matched, in_place⟩ := kept g' added
  have aligned : e.Aligned "," := by decide +kernel
  have predicates : (e.link ",").predicates = [("order_id", "id"), ("line", "line")] := by decide +kernel
  exact ⟨⟨g', added, matched⟩, predicates, in_place aligned⟩

/-- A row with as many columns on both sides may match columns that do not stand at the same position. -/
theorem shifted_row_is_taken :
    let e : LinkEntry := ⟨"item", "order", .delimited "order_id,,line", .delimited "id,shop,"⟩
    linksOfJson "," "[[\"item\",\"order\",\"order_id,,line\",\"id,shop,\"]]" = .ok [e.link ","] ∧
      (∃ g', JoinGraph.empty.add (e.link ",") = .ok g' ∧ e.MatchedIn "," g') ∧
      ∃ p ∈ (e.link ",").predicates, ¬ e.SamePosition "," p := by
  intro e
  have taken : e.IsTaken "," := ⟨by decide, by decide, by decide, by decide, by decide⟩
  obtain ⟨g', added⟩ := (LinkEntry.exists_add_iff (g := .empty)).2 taken
  have loaded : linksOfJson "," "[[\"item\",\"order\",\"order_id,,line\",\"id,shop,\"]]" = .ok [e.link ","] := by
    decide +kernel
  have shifted : ("line", "shop") ∈ (e.link ",").predicates := by decide +kernel
  have left_pieces : (e.leftColumns.pieces ",").map trim = ["order_id", "", "line"] := by decide +kernel
  have right_pieces : (e.rightColumns.pieces ",").map trim = ["id", "shop", ""] := by decide +kernel
  have not_same : ¬ e.SamePosition "," ("line", "shop") := by
    rintro ⟨i, left, right⟩
    rw [left_pieces] at left
    rw [right_pieces] at right
    match i with
    | 0 | 1 => exact absurd left (by decide)
    | 2 => exact absurd right (by decide)
    | i + 3 => cases left
  exact ⟨loaded, ⟨g', added, LinkEntry.matchedIn_of_add added⟩, _, shifted, not_same⟩

end Joinery
