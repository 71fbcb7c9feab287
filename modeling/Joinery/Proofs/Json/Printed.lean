import Joinery.Json.Value
import Joinery.Proofs.Json.Written

/-!
# Printed values

A value is printed as a well-formed text of the same value, on one line (`Value.isText_line`) as well as on
several (`Value.isText_lines`): what has to be escaped is, and a layout puts nothing but spaces between the
parts.
-/

namespace Joinery.Json

/-! ## Texts -/

theorem hexValue?_control : ∀ n < 32,
    hexValue? ['0', '0', hexChar (n / 16), hexChar (n % 16)] = some n := by decide

theorem lt_blank_iff {c : Char} : c < ' ' ↔ c.toNat < 32 := by
  rw [Char.lt_def, UInt32.lt_iff_toNat_lt]
  rfl

/-- A character is printed as one unit that stands for it. -/
theorem Spells.escape {units : List TextUnit} {cs : List Char} (h : Spells units cs) (c : Char) :
    ∃ unit, Spells (unit :: units) (escape c ++ cs) ∧
      ∀ s, decodeUnits none units = .ok s → decodeUnits none (unit :: units) = .ok (c :: s) := by
  have decoded {s : List Char} (tail : decodeUnits none units = .ok s) :
      decodeUnits none (.char c :: units) = .ok (c :: s) := by
    rw [decodeUnits, tail]
    rfl
  have short {e : Char} (stands : escaped? e = some c) :
      ∃ unit, Spells (unit :: units) ('\\' :: e :: cs) ∧
        ∀ s, decodeUnits none units = .ok s → decodeUnits none (unit :: units) = .ok (c :: s) :=
    ⟨.char c, h.escaped stands, fun _ => decoded⟩
  unfold Json.escape
  split_ifs with quote backslash backspace feed line_end carriage tab control
  · exact short (by rw [quote]; rfl)
  · exact short (by rw [backslash]; rfl)
  · exact short (by rw [backspace]; rfl)
  · exact short (by rw [feed]; rfl)
  · exact short (by rw [line_end]; rfl)
  · exact short (by rw [carriage]; rfl)
  · exact short (by rw [tab]; rfl)
  · have small : c.toNat < 32 := lt_blank_iff.1 control
    refine ⟨.code c.toNat, h.code (hexValue?_control _ small), fun s tail => ?_⟩
    have not_second : isSecondHalf c.toNat = false := by
      simp only [isSecondHalf, Bool.and_eq_false_iff, decide_eq_false_iff_not]
      omega
    have not_first : isFirstHalf c.toNat = false := by
      simp only [isFirstHalf, Bool.and_eq_false_iff, decide_eq_false_iff_not]
      omega
    rw [decodeUnits.eq_def]
    simp only [not_second, not_first, tail, Char.ofNat_toNat, Bool.false_eq_true, if_false]
    rfl
  · exact ⟨.char c, h.plain quote backslash control, fun _ => decoded⟩

theorem exists_spells (s : List Char) :
    ∃ units, Spells units (s.flatMap escape) ∧ decodeUnits none units = .ok s := by
  induction s with
  | nil => exact ⟨[], .nil, rfl⟩
  | cons c s ih =>
    obtain ⟨units, spelled, decoded⟩ := ih
    obtain ⟨unit, spelled', decoded'⟩ := spelled.escape c
    exact ⟨unit :: units, spelled', decoded' s decoded⟩

theorem written_quotedChars (s : String) : Written (textDocument s) (quotedChars s) := by
  obtain ⟨units, spelled, decoded⟩ := exists_spells s.toList
  have document : unitsDocument units = textDocument s := by
    rw [unitsDocument, decoded]
    exact congrArg (fun s => Document.scalar (.ok (.text s)) none) String.ofList_toList
  exact document ▸ Written.text spelled

/-! ## Values -/

namespace Value

mutual

/-- The document that a value is. -/
def document : Value → Document
  | null => .scalar (.ok .null) none
  | text value => textDocument value
  | arr items => .arr (documents items) none
  | obj members => .obj (memberDocuments members) none

def documents : List Value → List Document
  | [] => []
  | item :: items => item.document :: documents items

def memberDocuments : List (String × Value) → List (Except Fault String × Document)
  | [] => []
  | (name, value) :: members => (.ok name, value.document) :: memberDocuments members

end

theorem documents_eq_map (items : List Value) : documents items = items.map document := by
  induction items with
  | nil => rfl
  | cons item items ih => rw [documents, ih, List.map_cons]

end Value

/-- A layout puts nothing but spaces between the parts. -/
structure Layout.IsSpaced (l : Layout) : Prop where
  before : ∀ depth, IsGap (l.before depth)
  after : ∀ depth, IsGap (l.after depth)
  colon : ∃ gap, l.colon = ':' :: gap ∧ IsGap gap

theorem isSpaced_line : Layout.line.IsSpaced :=
  ⟨fun _ => isGap_nil, fun _ => isGap_nil, [], rfl, isGap_nil⟩

theorem isGap_lineBreak (depth : Nat) : IsGap (lineBreak depth) := by
  intro c mem
  rcases List.mem_cons.1 mem with rfl | mem
  · rfl
  · rw [List.eq_of_mem_replicate mem]
    rfl

theorem isSpaced_lines : Layout.lines.IsSpaced :=
  ⟨fun depth => isGap_lineBreak (depth + 1), isGap_lineBreak, [' '], rfl, by simp [IsGap, isSpace]⟩

namespace Value

variable {l : Layout}

mutual

theorem written_chars (spaced : l.IsSpaced) (depth : Nat) :
    (v : Value) → Written v.document (v.chars l depth)
  | null => .null
  | text value => written_quotedChars value
  | arr [] => .emptyList isGap_nil
  | arr (item :: items) => by
    obtain ⟨cs, parts, eq⟩ := written_itemChars spaced depth (spaced.after depth) (item :: items) nofun
    rw [chars, List.cons_append, eq]
    exact .list (spaced.before depth) parts
    nofun
  | obj [] => .emptyObject isGap_nil
  | obj (member :: members) => by
    obtain ⟨cs, parts, eq⟩ :=
      written_memberChars spaced depth (spaced.after depth) (member :: members) nofun
    rw [chars, List.cons_append, eq]
    exact .object (spaced.before depth) parts
    nofun

/-- What stands before the first item belongs to the list around the items. -/
theorem written_itemChars (spaced : l.IsSpaced) (depth : Nat) {gap : List Char} (spaces : IsGap gap) :
    (items : List Value) → items ≠ [] → ∃ cs, WrittenItems (documents items) cs ∧
      itemChars l depth items ++ gap = l.before depth ++ cs
  | [], some_item => absurd rfl some_item
  | [item], _ =>
    ⟨item.chars l (depth + 1) ++ gap, .last (written_chars spaced (depth + 1) item) spaces,
      by rw [itemChars, List.append_assoc]⟩
  | item :: next :: items, _ => by
    obtain ⟨cs, parts, eq⟩ := written_itemChars spaced depth spaces (next :: items) nofun
    have more := WrittenItems.more (written_chars spaced (depth + 1) item) isGap_nil
      (spaced.before depth) parts
    refine ⟨_, more, ?_⟩
    rw [itemChars, List.append_assoc, List.cons_append, eq]
    · simp
    · nofun

theorem written_memberChars (spaced : l.IsSpaced) (depth : Nat) {gap : List Char} (spaces : IsGap gap) :
    (members : List (String × Value)) → members ≠ [] → ∃ cs, WrittenMembers (memberDocuments members) cs ∧
      memberChars l depth members ++ gap = l.before depth ++ cs
  | [], some_member => absurd rfl some_member
  | [(name, value)], _ => by
    obtain ⟨units, spelled, decoded⟩ := exists_spells name.toList
    obtain ⟨colon_gap, colon, colon_spaces⟩ := spaced.colon
    have last := WrittenMembers.last spelled isGap_nil colon_spaces (written_chars spaced (depth + 1) value)
      spaces
    rw [decoded] at last
    refine ⟨_, by simpa [memberDocuments, Except.map] using last, ?_⟩
    simp [memberChars, quotedChars, colon]
  | (name, value) :: next :: members, _ => by
    obtain ⟨units, spelled, decoded⟩ := exists_spells name.toList
    obtain ⟨colon_gap, colon, colon_spaces⟩ := spaced.colon
    obtain ⟨cs, parts, eq⟩ := written_memberChars spaced depth spaces (next :: members) nofun
    have more := WrittenMembers.more spelled isGap_nil colon_spaces
      (written_chars spaced (depth + 1) value) isGap_nil (spaced.before depth) parts
    rw [decoded] at more
    refine ⟨_, by simpa [memberDocuments, Except.map] using more, ?_⟩
    rw [memberChars, List.append_assoc, List.cons_append, eq]
    · simp [quotedChars, colon]
    · nofun

end

theorem isText_line (v : Value) : v.document.IsText v.line :=
  ⟨[], _, [], isGap_nil, written_chars isSpaced_line 0 v, isGap_nil, by simp [line]⟩

theorem isText_lines (v : Value) : v.document.IsText v.lines :=
  ⟨[], _, [], isGap_nil, written_chars isSpaced_lines 0 v, isGap_nil, by simp [lines]⟩

end Value

end Joinery.Json
