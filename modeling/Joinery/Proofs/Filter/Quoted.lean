import Joinery.Proofs.Filter.Levels

/-!
# Filters over delimited names

A name between delimiters is read as what it is, whatever its characters are (`readDelimited_quoted`), and is not
folded. So comparisons of delimited columns with numbers, joined by AND, are a filter, and its columns are those that
were written (`FilterExpr.ofText_comparisons`).
-/

namespace Joinery

open Joinery.Filter

namespace Filter

open SqlParser Text

variable {d : Dialect}

/-! ## Columns -/

theorem readDelimited_cons {closing c : Char} {cs value rest : List Char} (other : c ≠ closing) (ne : cs ≠ [])
    (read : readDelimited closing cs = some (value, rest)) :
    readDelimited closing (c :: cs) = some (c :: value, rest) := by
  obtain ⟨c', cs, rfl⟩ := List.exists_cons_of_ne_nil ne
  rw [readDelimited, if_neg other, read]
  rfl

theorem readDelimited_doubled {closing : Char} {cs value rest : List Char}
    (read : readDelimited closing cs = some (value, rest)) :
    readDelimited closing (closing :: closing :: cs) = some (closing :: value, rest) := by
  rw [readDelimited, if_pos rfl, if_pos rfl, read]
  rfl

theorem readDelimited_closing {closing : Char} {rest : List Char} (behind : rest.head? ≠ some closing) :
    readDelimited closing (closing :: rest) = some ([], rest) := by
  cases rest with
  | nil => rw [readDelimited, if_pos rfl]
  | cons c rest => rw [readDelimited, if_pos rfl, if_neg fun eq => behind (congrArg some eq)]

/-- Reading a delimited name undoes writing it. -/
theorem readDelimited_quoted (name : List Char) {rest : List Char} (behind : rest.head? ≠ some d.quotes.closing) :
    readDelimited d.quotes.closing (name.flatMap d.quoteChar ++ d.quotes.closing :: rest) = some (name, rest) := by
  induction name with
  | nil => exact readDelimited_closing behind
  | cons c name ih =>
    rw [List.flatMap_cons, Dialect.quoteChar]
    split_ifs with closes
    · rw [closes]
      exact readDelimited_doubled ih
    · exact readDelimited_cons closes (by simp) ih

theorem scan_quoted (name rest : List Char) (behind : rest.head? ≠ some d.quotes.closing) :
    scan d d.quotes.opening (name.flatMap d.quoteChar ++ d.quotes.closing :: rest) =
      .found (.word (String.ofList name) (some d.quotes.opening)) rest := by
  have read := readDelimited_quoted (d := d) name behind
  have opens : opensName d d.quotes.opening = true := by cases d <;> decide
  have closes : closingOf d.quotes.opening = d.quotes.closing := by cases d <;> decide
  have no_text : d.quotes.opening ≠ '\'' := by cases d <;> decide
  have no_blank : ¬[' ', '\t', '\n', '\r'].contains d.quotes.opening = true := by cases d <;> decide
  have no_mark (cs : List Char) : scanMarked? d d.quotes.opening cs = none := by
    cases d <;> rfl
  rw [scan_eq, if_neg no_blank, scanRule?, no_mark, scanQuoted?, if_neg no_text, if_pos opens, closes, read]
  rfl

theorem scan_point (rest : List Char) :
    scan d '.' (d.quotes.opening :: rest) = .found (.symbol ".") (d.quotes.opening :: rest) := by
  cases d <;> rfl

theorem opensComment_opening (cs : List Char) : opensComment d d.quotes.opening cs = false := by
  cases d <;> rfl

/-- A column with its table in front. -/
def columnText (d : Dialect) (table column : String) : String :=
  d.quote table ++ "." ++ d.quote column

theorem readsAs_columnText (table column : String) : ReadsAs d (columnText d table column)
    [.word table (some d.quotes.opening), .symbol ".", .word column (some d.quotes.opening)] := by
  have chars : (columnText d table column).toList = d.quotes.opening :: (table.toList.flatMap d.quoteChar ++
      d.quotes.closing :: '.' :: d.quotes.opening :: (column.toList.flatMap d.quoteChar ++ [d.quotes.closing])) := by
    simp [columnText, Dialect.quote, Dialect.quoteChars]
  have point : ('.' :: d.quotes.opening ::
      (column.toList.flatMap d.quoteChar ++ [d.quotes.closing])).head? ≠ some d.quotes.closing := by
    cases d <;> exact fun eq => absurd (Option.some.inj eq) (by decide)
  have first := scan_quoted (d := d) table.toList _ point
  have second := scan_quoted (d := d) column.toList [] nofun
  rw [String.ofList_toList] at first second
  refine .of_steps 3 ?_ ?_ ?_
  · rw [chars]
    simp only [List.length_cons, List.length_append]
    omega
  · rw [chars]
    simp only [lexemesWithin, first, scan_point, second]
    rfl
  · rw [chars]
    simp only [endsInCommentWithin, first, scan_point, second, opensComment_opening]
    rfl

/-! ## Numbers -/

theorem scanNumberEnd_nil (digits : List Char) :
    scanNumberEnd d digits [] = .found (.number (String.ofList digits) false) [] := by
  simp [scanNumberEnd, exponent]

theorem toUpper_digit {c : Char} (digit : c.isDigit = true) : c.toUpper = c := by
  simp only [Char.isDigit, ge_iff_le, Bool.and_eq_true, decide_eq_true_eq] at digit
  exact dif_neg fun lower => absurd (UInt32.le_trans lower.1 digit.2) (by decide)

theorem isBlank_digit {c : Char} (digit : c.isDigit = true) : isBlank c = false := by
  simp only [Char.isDigit, ge_iff_le, Bool.and_eq_true, decide_eq_true_eq, UInt32.le_iff_toNat_le] at digit
  have range : 48 ≤ c.toNat ∧ c.toNat ≤ 57 := digit
  simp only [isBlank, Bool.or_eq_false_iff, Bool.and_eq_false_iff, decide_eq_false_iff_not, beq_eq_false_iff_ne]
  omega

/-- Digits, and maybe a point with further digits, are a number. -/
theorem scan_decimal {c : Char} {whole fraction : List Char} (digits : ∀ c' ∈ c :: whole, c'.isDigit = true)
    (point : fraction = [] ∨ ∃ places, fraction = '.' :: places ∧ ∀ c' ∈ places, c'.isDigit = true) :
    scan d c (whole ++ fraction) = .found (.number (String.ofList (c :: whole ++ fraction)) false) [] := by
  have digit : c.isDigit = true := digits c List.mem_cons_self
  have other (mark : Char) (no_digit : mark.isDigit = false) : c ≠ mark := by
    rintro rfl
    exact absurd digit (by simp [no_digit])
  have no_blank : ¬[' ', '\t', '\n', '\r'].contains c = true := by
    simp [other ' ' rfl, other '\t' rfl, other '\n' rfl, other '\r' rfl]
  have no_mark : scanMarked? d c (whole ++ fraction) = none := by
    unfold scanMarked?
    rw [toUpper_digit digit]
    split
    case h_7 => rfl
    all_goals cases digit
  have no_quote : scanQuoted? d c (whole ++ fraction) = none := by
    have opens : ¬opensName d c = true := by
      cases d <;> simp [opensName, other '"' rfl, other '\x60' rfl, other '[' rfl]
    rw [scanQuoted?, if_neg (other '\'' rfl), if_neg opens, if_neg (other '"' rfl)]
  have stops : fraction.takeWhile Char.isDigit = [] ∧ fraction.dropWhile Char.isDigit = fraction := by
    rcases point with rfl | ⟨places, rfl, -⟩ <;> exact ⟨rfl, rfl⟩
  have front : (c :: (whole ++ fraction)).takeWhile Char.isDigit = c :: whole := by
    rw [← List.cons_append, List.takeWhile_append_of_pos digits, stops.1, List.append_nil]
  have behind : (c :: (whole ++ fraction)).dropWhile Char.isDigit = fraction := by
    rw [← List.cons_append, List.dropWhile_append_of_pos digits, stops.2]
  have number : scanNumber? d c (whole ++ fraction) =
      some (.found (.number (String.ofList (c :: whole ++ fraction)) false) []) := by
    rw [scanNumber?, if_pos (.inl digit)]
    simp only [front, behind]
    rcases point with rfl | ⟨places, rfl, places_digits⟩
    · rw [List.append_nil]
      exact congrArg some (scanNumberEnd_nil _)
    · change some (scanNumberEnd d (c :: whole ++ '.' :: places.takeWhile Char.isDigit)
        (places.dropWhile Char.isDigit)) = _
      rw [List.takeWhile_eq_self_iff.2 places_digits, List.dropWhile_eq_nil_iff.2 places_digits]
      exact congrArg some (scanNumberEnd_nil _)
  rw [scan_eq, if_neg no_blank, scanRule?, no_mark, no_quote, number]
  rfl

section Decimal

variable {c : Char} {whole fraction : List Char} (digits : ∀ c' ∈ c :: whole, c'.isDigit = true)
  (point : fraction = [] ∨ ∃ places, fraction = '.' :: places ∧ ∀ c' ∈ places, c'.isDigit = true)

include digits point

theorem readsAs_decimal : ReadsAs d (String.ofList (c :: whole ++ fraction))
    [.number (String.ofList (c :: whole ++ fraction)) false] := by
  have digit : c.isDigit = true := digits c List.mem_cons_self
  have no_comment : opensComment d c (whole ++ fraction) = false := by
    unfold opensComment
    split
    case h_3 => rfl
    all_goals cases digit
  refine .of_steps 1 ?_ ?_ ?_ <;> rw [String.toList_ofList, List.cons_append]
  · exact Nat.le_add_left 1 _
  · simp only [lexemesWithin, scan_decimal digits point]
    rfl
  · simp only [endsInCommentWithin, scan_decimal digits point, no_comment]
    rfl

theorem trim_decimal : trim (String.ofList (c :: whole ++ fraction)) = String.ofList (c :: whole ++ fraction) := by
  have seen : ∀ c' ∈ c :: whole ++ fraction, isBlank c' = false := by
    rw [List.forall_mem_append]
    refine ⟨fun c' mem => isBlank_digit (digits c' mem), ?_⟩
    rcases point with rfl | ⟨places, rfl, places_digits⟩
    · exact nofun
    · exact List.forall_mem_cons.2 ⟨rfl, fun c' mem => isBlank_digit (places_digits c' mem)⟩
  rw [trim_eq_self_iff, String.toList_ofList]
  exact trimChars_of_ends (fun c' first => seen c' (List.mem_of_mem_head? first))
    (fun c' last => seen c' (List.mem_of_mem_getLast? last))

end Decimal

/-- A text that is one number. -/
structure NumberText (d : Dialect) where
  text : String
  digits : String
  long : Bool
  reads : ReadsAs d text [.number digits long]
  trimmed : trim text = text

def NumberText.literal (n : NumberText d) : Literal :=
  .number n.digits n.long

/-- Digits, and maybe a point with further digits. -/
def NumberText.decimal (d : Dialect) (c : Char) (whole fraction : List Char)
    (digits : ∀ c' ∈ c :: whole, c'.isDigit = true)
    (point : fraction = [] ∨ ∃ places, fraction = '.' :: places ∧ ∀ c' ∈ places, c'.isDigit = true) :
    NumberText d where
  text := String.ofList (c :: whole ++ fraction)
  digits := String.ofList (c :: whole ++ fraction)
  long := false
  reads := readsAs_decimal digits point
  trimmed := trim_decimal digits point

/-! ## Comparisons -/

theorem Operand.nodes_tree (o : Operand) : visitsParts_tree.nodes o.tree = [o.tree] := by
  cases o with
  | column table plain name => exact Tree.nodes_reference _
  | literal value => exact Tree.nodes_literal _

theorem Term.nodes_comparison (left : Operand) (mark : String) (compares : mark ∈ Grammar.comparisons)
    (right : Operand) : visitsParts_tree.nodes (Term.comparison left mark compares right).tree =
      [.form mark [left.tree, right.tree], left.tree, right.tree] := by
  rw [Term.tree, Tree.nodes_form, List.flatMap_cons, List.flatMap_singleton, left.nodes_tree, right.nodes_tree]
  rfl

/-- The ways to write a comparison. -/
def comparisonMarks : List String :=
  ["=", "<>", "!=", "<", "<=", ">", ">="]

theorem readsAs_mark {mark : String} (compares : mark ∈ comparisonMarks) :
    ReadsAs d mark [.symbol (spelling mark)] ∧ spelling mark ∈ Grammar.comparisons := by
  revert mark
  cases d <;> decide +kernel

/-- A column between delimiters that is compared with a number, on one side or the other. -/
structure Comparison (d : Dialect) where
  table : String
  column : String
  mark : String
  compares : mark ∈ comparisonMarks
  number : NumberText d
  numberFirst : Bool

namespace Comparison

variable (c : Comparison d)

def text : String :=
  if c.numberFirst then c.number.text ++ " " ++ c.mark ++ " " ++ columnText d c.table c.column
  else columnText d c.table c.column ++ " " ++ c.mark ++ " " ++ c.number.text

/-- The column as an operand. A delimited name is no reserved word. -/
def operand : Operand :=
  .column ⟨c.table, some d.quotes.opening⟩
    ⟨(by decide : "" ∉ typeWords), (by decide : "" ∉ formWords), (by decide : "" ∉ ["SELECT", "WITH"]),
      (by decide : "" ∉ ["ANY", "ALL", "SOME"])⟩
    ⟨c.column, some d.quotes.opening⟩

def term : Term :=
  if c.numberFirst then
    .comparison (.literal c.number.literal) (spelling c.mark) (readsAs_mark (d := d) c.compares).2 c.operand
  else
    .comparison c.operand (spelling c.mark) (readsAs_mark (d := d) c.compares).2 (.literal c.number.literal)

theorem readsAs_text : ReadsAs d c.text c.term.lexemes := by
  have column := readsAs_columnText (d := d) c.table c.column
  have mark := (readsAs_mark (d := d) c.compares).1
  unfold text term
  split_ifs
  · exact (c.number.reads.append mark).append column
  · exact (column.append mark).append c.number.reads

theorem trimmed_columnText (table column : String) : trim (columnText d table column) = columnText d table column := by
  have opening : isBlank d.quotes.opening = false := by cases d <;> decide
  have closing : isBlank d.quotes.closing = false := by cases d <;> decide
  have between := trimChars_between opening closing (table.toList.flatMap d.quoteChar ++ d.quotes.closing :: '.' ::
    d.quotes.opening :: column.toList.flatMap d.quoteChar)
  rw [trim_eq_self_iff]
  simpa [columnText, Dialect.quote, Dialect.quoteChars] using between

theorem columnText_ne_nil (table column : String) : (columnText d table column).toList ≠ [] := by
  simp [columnText, Dialect.quote, Dialect.quoteChars]

theorem trimmed_text : trim c.text = c.text := by
  have column := trim_eq_self_iff.1 (trimmed_columnText (d := d) c.table c.column)
  have number := trim_eq_self_iff.1 c.number.trimmed
  have some_column := columnText_ne_nil (d := d) c.table c.column
  have some_number := c.number.reads.toList_ne_nil
  rw [trim_eq_self_iff, text]
  split_ifs
  · have both := trimChars_append_of_trimmed number some_number column some_column (" " ++ c.mark ++ " ").toList
    simpa using both
  · have both := trimChars_append_of_trimmed column some_column number some_number (" " ++ c.mark ++ " ").toList
    simpa using both

theorem shallow_term : c.term.depth + 3 ≤ Grammar.maxDepth := by
  unfold term
  split_ifs <;> exact (by decide : 1 + 3 ≤ Grammar.maxDepth)

theorem text_ne_nil : c.text.toList ≠ [] := by
  obtain ⟨l, ls, eq, -⟩ := c.term.startsPlain
  have reads := c.readsAs_text
  rw [eq] at reads
  exact reads.toList_ne_nil

theorem isQualified_term : visitsParts_tree.IsQualified c.term.tree := by
  have column : c.operand.tree.mention.IsQualified := by
    rintro names ⟨⟩
    rfl
  have other : Mention.other.IsQualified := nofun
  unfold term
  split_ifs
  all_goals
    rw [VisitsParts.IsQualified, Term.nodes_comparison, List.forall_mem_cons, List.forall_mem_cons,
      List.forall_mem_singleton]
  · exact ⟨other, other, column⟩
  · exact ⟨other, column, other⟩

/-- A name between delimiters is not folded. -/
theorem mentioned_term : visitsParts_tree.mentioned d c.term.tree = [⟨c.table, c.column⟩] := by
  unfold term
  split_ifs
  all_goals
    rw [VisitsParts.mentioned, Term.nodes_comparison]
    rfl

/-- A comparison as a condition of its own. -/
def condition : climbing.Condition :=
  ⟨⟨c.term.piece, []⟩, []⟩

theorem tokens_condition : c.condition.tokens = c.term.lexemes := by
  change (c.term.lexemes ++ []) ++ [] = _
  rw [List.append_nil, List.append_nil]

theorem stands : ∀ o ∈ c.condition.pieces, climbing.Stands d o :=
  List.forall_mem_singleton.2 (c.term.stands c.shallow_term)

def clause : Clause climbing d :=
  .ofCondition climbs_tree visitsParts_tree c.text c.condition
    (isBlankText_of_trimmed c.trimmed_text c.text_ne_nil) c.trimmed_text
    (c.tokens_condition ▸ c.readsAs_text.read) c.stands (List.forall_mem_nil _) c.isQualified_term

theorem columns_clause : c.clause.filter.columns = [⟨c.table, c.column⟩] := by
  change (visitsParts_tree.mentioned d c.term.tree).eraseDups = _
  rw [mentioned_term]
  rfl

/-- Comparisons do not disturb each other. -/
theorem separate (cs : List (Comparison d)) :
    Clause.Separate (fun d text => endsInComment d text = true) c.clause (cs.map clause) where
  closed k mem := by
    have mem : k ∈ (c :: cs).map clause := List.mem_of_mem_dropLast mem
    obtain ⟨c', -, rfl⟩ := List.mem_map.1 mem
    exact Bool.eq_false_iff.1 c'.readsAs_text.closed
  stands k mem := by
    have mem : k ∈ (c :: cs).map clause := mem
    obtain ⟨c', -, rfl⟩ := List.mem_map.1 mem
    exact c'.stands
  plain := List.forall_mem_map.2 fun c' _ => c'.term.isPlain

end Comparison

end Filter

/-- Comparisons of delimited columns with numbers are a filter over these columns, whatever their names are. -/
theorem FilterExpr.ofText_comparisons {d : Dialect} (c : Filter.Comparison d) (cs : List (Filter.Comparison d)) :
    ofText d (" AND ".intercalate ((c :: cs).map (·.text))) =
      .ok (some ⟨" AND ".intercalate ((c :: cs).map (·.text)),
        ((c :: cs).map fun c => ⟨c.table, c.column⟩).eraseDups⟩) := by
  have accepted := SqlParser.Clause.readFilter_joined cutsTexts_lexemes climbs_tree (c.separate cs) visitsParts_tree
  have texts : SqlParser.Clause.joinedText ((c :: cs).map (·.clause)) = " AND ".intercalate ((c :: cs).map (·.text)) := by
    rw [SqlParser.Clause.joinedText, List.map_map]
    rfl
  have columns : ((c :: cs).map (·.clause)).flatMap (·.filter.columns) = (c :: cs).map fun c => ⟨c.table, c.column⟩ := by
    rw [List.flatMap_map, List.map_eq_flatMap]
    exact List.flatMap_congr fun c _ => c.columns_clause
  rw [← List.map_cons, texts, columns] at accepted
  exact accepted

/-- Delimiters, points, blanks and reserved words inside names do not matter. -/
theorem FilterExpr.ofText_odd_names :
    ofText .tsql "[a]]b].[C d] >= 1.5 AND 2 <> [SELECT].[.] AND [a]]b].[C d] < 3" =
      .ok (some ⟨"[a]]b].[C d] >= 1.5 AND 2 <> [SELECT].[.] AND [a]]b].[C d] < 3",
        [⟨"a]b", "C d"⟩, ⟨"SELECT", "."⟩]⟩) := by
  have read := ofText_comparisons (d := .tsql)
    ⟨"a]b", "C d", ">=", by decide, .decimal _ '1' [] ['.', '5'] (List.forall_mem_singleton.2 rfl)
      (.inr ⟨['5'], rfl, List.forall_mem_singleton.2 rfl⟩), false⟩
    [⟨"SELECT", ".", "<>", by decide, .decimal _ '2' [] [] (List.forall_mem_singleton.2 rfl) (.inl rfl), true⟩,
      ⟨"a]b", "C d", "<", by decide, .decimal _ '3' [] [] (List.forall_mem_singleton.2 rfl) (.inl rfl), false⟩]
  refine read.trans ?_
  decide +kernel

end Joinery
