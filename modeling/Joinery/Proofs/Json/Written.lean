import Mathlib.Data.List.TakeWhile
import Joinery.Json.Document

/-!
# Well-formed texts

`Written d cs` says that characters are a way to write a document, by the grammar of JSON: parts may have
spaces between them, and characters of a text may be written as escapes. A scanner finds the document in
whatever way it is written (`Written.scanWithin`), so it is the document that a text stands for.
-/

namespace Joinery.Json

/-! ## The grammar -/

/-- Characters that may stand between the parts of a document. -/
def IsGap (cs : List Char) : Prop :=
  ∀ c ∈ cs, isSpace c = true

/-- At least one digit and nothing else. -/
def IsDigits (cs : List Char) : Prop :=
  cs ≠ [] ∧ ∀ c ∈ cs, c.isDigit = true

/-- The characters between the quotes of a text, and the units they stand for. -/
inductive Spells : List TextUnit → List Char → Prop
  | nil : Spells [] []
  | plain {c : Char} {units : List TextUnit} {cs : List Char} (quote : c ≠ '"') (backslash : c ≠ '\\')
      (printable : ¬ c < ' ') (rest : Spells units cs) : Spells (.char c :: units) (c :: cs)
  | escaped {e c : Char} {units : List TextUnit} {cs : List Char} (stands : escaped? e = some c)
      (rest : Spells units cs) : Spells (.char c :: units) ('\\' :: e :: cs)
  | code {a b c d : Char} {n : Nat} {units : List TextUnit} {cs : List Char}
      (value : hexValue? [a, b, c, d] = some n) (rest : Spells units cs) :
      Spells (.code n :: units) ('\\' :: 'u' :: a :: b :: c :: d :: cs)

/-- The power of ten at the end of a number. -/
inductive WritesPower : Option Int → List Char → Prop
  | none : WritesPower .none []
  | plain {e : Char} {digits : List Char} (mark : e = 'e' ∨ e = 'E') (some_digits : IsDigits digits) :
      WritesPower (some (decimalValue digits)) (e :: digits)
  | plus {e : Char} {digits : List Char} (mark : e = 'e' ∨ e = 'E') (some_digits : IsDigits digits) :
      WritesPower (some (decimalValue digits)) (e :: '+' :: digits)
  | minus {e : Char} {digits : List Char} (mark : e = 'e' ∨ e = 'E') (some_digits : IsDigits digits) :
      WritesPower (some (-decimalValue digits)) (e :: '-' :: digits)

/-- A number behind its sign. No zero stands in front of other digits. -/
structure WritesNumeral (n : Numeral) (power cs : List Char) : Prop where
  whole : IsDigits n.whole
  leading : n.whole.head? = some '0' → n.whole = ['0']
  places : ∀ c ∈ n.places, c.isDigit = true
  writes : WritesPower n.power power
  eq : cs = n.whole ++ (if n.places = [] then [] else '.' :: n.places) ++ power

/-- The document that a number is. A number that is too large has no value. -/
def Numeral.document (n : Numeral) : Document :=
  match n.value? with
  | some value => .scalar (.ok value) none
  | none => .scalar (.error .malformed) none

/-- The document that a text is. -/
def textDocument (s : String) : Document :=
  .scalar (.ok (.text s)) none

/-- The document that a text between quotes is. Codes that are no characters have no value. -/
def unitsDocument (units : List TextUnit) : Document :=
  .scalar (((decodeUnits none units).map String.ofList).map .text) none

mutual

/-- Characters are a way to write a document. -/
inductive Written : Document → List Char → Prop
  | null : Written (.scalar (.ok .null) none) ['n', 'u', 'l', 'l']
  | yes : Written (.scalar (.ok (.bool true)) none) ['t', 'r', 'u', 'e']
  | no : Written (.scalar (.ok (.bool false)) none) ['f', 'a', 'l', 's', 'e']
  | number {n : Numeral} {power cs : List Char} (sign : n.negative = false)
      (number : WritesNumeral n power cs) : Written n.document cs
  | negative {n : Numeral} {power cs : List Char} (sign : n.negative = true)
      (number : WritesNumeral n power cs) : Written n.document ('-' :: cs)
  | text {units : List TextUnit} {cs : List Char} (spelled : Spells units cs) :
      Written (unitsDocument units) ('"' :: cs ++ ['"'])
  | emptyList {gap : List Char} (spaces : IsGap gap) : Written (.arr [] none) ('[' :: gap ++ [']'])
  | list {items : List Document} {gap cs : List Char} (spaces : IsGap gap)
      (parts : WrittenItems items cs) : Written (.arr items none) ('[' :: gap ++ cs ++ [']'])
  | emptyObject {gap : List Char} (spaces : IsGap gap) :
      Written (.obj [] none) ('\x7b' :: gap ++ ['\x7d'])
  | object {members : List (Except Fault String × Document)} {gap cs : List Char} (spaces : IsGap gap)
      (parts : WrittenMembers members cs) :
      Written (.obj members none) ('\x7b' :: gap ++ cs ++ ['\x7d'])

/-- Items with commas between them. -/
inductive WrittenItems : List Document → List Char → Prop
  | last {item : Document} {cs gap : List Char} (first : Written item cs) (spaces : IsGap gap) :
      WrittenItems [item] (cs ++ gap)
  | more {item : Document} {items : List Document} {cs gap gap' rest : List Char}
      (first : Written item cs) (spaces : IsGap gap) (spaces' : IsGap gap')
      (parts : WrittenItems items rest) :
      WrittenItems (item :: items) (cs ++ gap ++ ',' :: gap' ++ rest)

/-- Members with commas between them. The name of each is a text. -/
inductive WrittenMembers : List (Except Fault String × Document) → List Char → Prop
  | last {value : Document} {units : List TextUnit} {name gap gap' cs gap'' : List Char}
      (spelled : Spells units name) (spaces : IsGap gap) (spaces' : IsGap gap')
      (first : Written value cs) (spaces'' : IsGap gap'') :
      WrittenMembers [((decodeUnits none units).map String.ofList, value)]
        ('"' :: name ++ '"' :: gap ++ ':' :: gap' ++ cs ++ gap'')
  | more {value : Document} {members : List (Except Fault String × Document)} {units : List TextUnit}
      {name gap gap' cs gap'' gap₃ rest : List Char} (spelled : Spells units name) (spaces : IsGap gap)
      (spaces' : IsGap gap') (first : Written value cs) (spaces'' : IsGap gap'') (spaces₃ : IsGap gap₃)
      (parts : WrittenMembers members rest) :
      WrittenMembers (((decodeUnits none units).map String.ofList, value) :: members)
        ('"' :: name ++ '"' :: gap ++ ':' :: gap' ++ cs ++ gap'' ++ ',' :: gap₃ ++ rest)

end

/-- A text is a way to write a document, with nothing but spaces around it. -/
def Document.IsText (d : Document) (text : String) : Prop :=
  ∃ gap cs gap', IsGap gap ∧ Written d cs ∧ IsGap gap' ∧ text.toList = gap ++ cs ++ gap'

/-! ## Scanning -/

theorem dropSpace_gap {gap : List Char} (spaces : IsGap gap) (cs : List Char) :
    dropSpace (gap ++ cs) = dropSpace cs :=
  List.dropWhile_append_of_pos spaces

theorem dropSpace_cons {c : Char} (visible : isSpace c = false) (cs : List Char) :
    dropSpace (c :: cs) = c :: cs := by
  rw [dropSpace, List.dropWhile_cons, visible]
  rfl

theorem dropSpace_comma (cs : List Char) : dropSpace (',' :: cs) = ',' :: cs :=
  dropSpace_cons (by decide) cs

theorem dropSpace_colon (cs : List Char) : dropSpace (':' :: cs) = ':' :: cs :=
  dropSpace_cons (by decide) cs

theorem dropSpace_bracket (cs : List Char) : dropSpace (']' :: cs) = ']' :: cs :=
  dropSpace_cons (by decide) cs

theorem dropSpace_brace (cs : List Char) : dropSpace ('\x7d' :: cs) = '\x7d' :: cs :=
  dropSpace_cons (by decide) cs

theorem Spells.scanUnits_eq {units : List TextUnit} {cs : List Char} (h : Spells units cs)
    (rest : List Char) : scanUnits (cs ++ '"' :: rest) = (units, .ok rest) := by
  induction h with
  | nil => rfl
  | plain quote backslash printable _ ih =>
    rw [List.cons_append, scanUnits, ih, if_neg printable]
    all_goals simp [quote, backslash]
  | @escaped e c _ _ stands _ ih =>
    have not_code : e ≠ 'u' := by
      rintro rfl
      cases stands
    rw [List.cons_append, List.cons_append, scanUnits, stands, ih]
    all_goals simp [not_code]
  | code value _ ih =>
    simp only [List.cons_append]
    rw [scanUnits, value, ih]

theorem Spells.scanText_eq {units : List TextUnit} {cs : List Char} (h : Spells units cs)
    (rest : List Char) :
    scanText (cs ++ '"' :: rest) = ((decodeUnits none units).map String.ofList, .ok rest) := by
  rw [scanText, h.scanUnits_eq]

/-! ### Numbers -/

/-- What can stand behind a value: the end, or a character that is no part of a number. -/
def Ends (rest : List Char) : Prop :=
  ∀ c ∈ rest.head?, isSpace c = true ∨ c = ',' ∨ c = ']' ∨ c = '\x7d'

/-- No digits go on here. -/
def StopsDigits (rest : List Char) : Prop :=
  ∀ c ∈ rest.head?, c.isDigit = false

theorem Ends.not_numeric {rest : List Char} (ends : Ends rest) :
    ∀ c ∈ rest.head?, c.isDigit = false ∧ c ≠ '.' ∧ c ≠ 'e' ∧ c ≠ 'E' := by
  intro c mem
  have cases := ends c mem
  simp only [isSpace, Bool.or_eq_true, beq_iff_eq] at cases
  rcases cases with (((rfl | rfl) | rfl) | rfl) | rfl | rfl | rfl <;> decide

theorem scanDigits_append {digits rest : List Char} (some_digits : IsDigits digits)
    (stops : StopsDigits rest) : scanDigits (digits ++ rest) = .ok (digits, rest) := by
  have taken : (digits ++ rest).takeWhile Char.isDigit = digits := by
    rw [List.takeWhile_append_of_pos some_digits.2]
    cases rest with
    | nil => simp
    | cons c rest => simp [stops c rfl]
  have dropped : (digits ++ rest).dropWhile Char.isDigit = rest := by
    rw [List.dropWhile_append_of_pos some_digits.2]
    cases rest with
    | nil => rfl
    | cons c rest => simp [stops c rfl]
  rw [scanDigits, taken, dropped]
  cases digits with
  | nil => exact absurd rfl some_digits.1
  | cons c digits => rfl

theorem WritesPower.scanPower_eq {power : Option Int} {cs rest : List Char} (h : WritesPower power cs)
    (ends : Ends rest) : scanPower (cs ++ rest) = .ok (power, rest) := by
  have stops : StopsDigits rest := fun c mem => (ends.not_numeric c mem).1
  cases h with
  | none =>
    cases rest with
    | nil => rfl
    | cons c rest =>
      obtain ⟨-, -, small, capital⟩ := ends.not_numeric c rfl
      change (if c = 'e' ∨ c = 'E' then _ else _) = _
      rw [if_neg (by simp [small, capital])]
  | @plain e digits mark some_digits =>
    obtain ⟨c, digits, rfl⟩ := List.exists_cons_of_ne_nil some_digits.1
    have digit := some_digits.2 c (by simp)
    rw [List.cons_append, scanPower, if_pos mark, scanDigits_append some_digits stops]
    · rfl
    · rintro _ eq
      obtain rfl : c = '-' := by simpa using congrArg List.head? eq
      cases digit
    · rintro _ eq
      obtain rfl : c = '+' := by simpa using congrArg List.head? eq
      cases digit
  | plus mark some_digits =>
    rw [List.cons_append, List.cons_append, scanPower, if_pos mark,
      scanDigits_append some_digits stops]
    rfl
  | minus mark some_digits =>
    rw [List.cons_append, List.cons_append, scanPower, if_pos mark,
      scanDigits_append some_digits stops]
    rfl

theorem WritesPower.not_numeric {power : Option Int} {cs rest : List Char} (h : WritesPower power cs)
    (ends : Ends rest) : ∀ c ∈ (cs ++ rest).head?, c.isDigit = false ∧ c ≠ '.' := by
  have mark_not {e : Char} (mark : e = 'e' ∨ e = 'E') : e.isDigit = false ∧ e ≠ '.' := by
    rcases mark with rfl | rfl <;> decide
  cases h with
  | none => exact fun c mem => ⟨(ends.not_numeric c mem).1, (ends.not_numeric c mem).2.1⟩
  | plain mark _ | plus mark _ | minus mark _ =>
    intro c mem
    obtain rfl := Option.some.inj mem
    exact mark_not mark

theorem WritesNumeral.scanNumeral_eq {n : Numeral} {power cs rest : List Char}
    (h : WritesNumeral n power cs) (ends : Ends rest) :
    scanNumeral n.negative (cs ++ rest) = .ok (n, rest) := by
  have behind := h.writes.not_numeric ends
  have single : ∀ c more, n.whole ≠ '0' :: c :: more := by
    intro c more eq
    have alone := h.leading (by rw [eq]; rfl)
    rw [eq] at alone
    cases alone
  have places : ∃ tail, cs ++ rest = n.whole ++ tail ∧ StopsDigits tail ∧
      scanPlaces tail = .ok (n.places, power ++ rest) := by
    rw [h.eq, List.append_assoc, List.append_assoc]
    refine ⟨_, rfl, ?_⟩
    by_cases no_places : n.places = []
    · rw [if_pos no_places, no_places, List.nil_append]
      refine ⟨fun c mem => (behind c mem).1, ?_⟩
      cases tail : power ++ rest with
      | nil => rfl
      | cons c more =>
        have not_point := (behind c (by rw [tail]; rfl)).2
        rw [scanPlaces]
        rintro _ eq
        exact not_point (List.cons.inj eq).1
    · rw [if_neg no_places, List.cons_append]
      refine ⟨fun c mem => by obtain rfl := Option.some.inj mem; rfl, ?_⟩
      exact scanDigits_append ⟨no_places, h.places⟩ fun c mem => (behind c mem).1
  obtain ⟨tail, eq, stops, scanned⟩ := places
  simp only [eq, scanNumeral, scanDigits_append h.whole stops, scanned, h.writes.scanPower_eq ends, bind, Except.bind,
    pure, Except.pure]

theorem WritesNumeral.scanNumber_eq {n : Numeral} {power cs rest : List Char}
    (h : WritesNumeral n power cs) (ends : Ends rest) :
    scanNumber n.negative (cs ++ rest) = (n.document, rest) := by
  rw [scanNumber, h.scanNumeral_eq ends, Numeral.document]
  change (match n.value? with
    | some value => _
    | none => _) = _
  cases n.value? with
  | none => rfl
  | some value => rfl

theorem WritesNumeral.exists_cons {n : Numeral} {power cs : List Char} (h : WritesNumeral n power cs) :
    ∃ c rest, cs = c :: rest ∧ c.isDigit = true := by
  obtain ⟨c, whole, eq⟩ := List.exists_cons_of_ne_nil h.whole.1
  rw [h.eq, eq, List.append_assoc, List.cons_append]
  exact ⟨c, _, rfl, h.whole.2 c (by simp [eq])⟩

/-! ### Documents -/

/-- A document begins with a character that is seen, and that ends no list. -/
theorem Written.exists_cons {d : Document} {cs : List Char} (h : Written d cs) :
    ∃ c rest, cs = c :: rest ∧ isSpace c = false ∧ c ≠ ']' := by
  have digit_seen {c : Char} (digit : c.isDigit = true) : isSpace c = false ∧ c ≠ ']' := by
    constructor
    · rw [← Bool.not_eq_true]
      intro space
      simp only [isSpace, Bool.or_eq_true, beq_iff_eq] at space
      rcases space with ((rfl | rfl) | rfl) | rfl <;> cases digit
    · rintro rfl
      cases digit
  cases h with
  | number _ number =>
    obtain ⟨c, rest, rfl, digit⟩ := number.exists_cons
    exact ⟨c, rest, rfl, digit_seen digit⟩
  | null | yes | no | negative | text | emptyList | list | emptyObject | object =>
    exact ⟨_, _, rfl, by decide, by decide⟩

theorem Written.dropSpace_eq {d : Document} {cs : List Char} (h : Written d cs) (rest : List Char) :
    dropSpace (cs ++ rest) = cs ++ rest := by
  obtain ⟨c, more, rfl, visible, -⟩ := h.exists_cons
  exact dropSpace_cons visible _

theorem scanScalar_digit {c : Char} (digit : c.isDigit = true) (rest : List Char) :
    scanScalar c rest = scanNumber false (c :: rest) := by
  unfold scanScalar
  split
  case h_6 => rw [if_pos digit]
  all_goals cases digit

theorem WrittenItems.exists_cons {items : List Document} {cs : List Char} (h : WrittenItems items cs) :
    ∃ c rest, cs = c :: rest ∧ isSpace c = false ∧ c ≠ ']' := by
  cases h with
  | last first _ | more first _ _ _ =>
    obtain ⟨c, rest, rfl, seen⟩ := first.exists_cons
    simp only [List.cons_append]
    exact ⟨c, _, rfl, seen⟩

theorem WrittenMembers.exists_cons {members : List (Except Fault String × Document)} {cs : List Char}
    (h : WrittenMembers members cs) : ∃ rest, cs = '"' :: rest := by
  cases h with
  | last | more => exact ⟨_, rfl⟩

theorem Numeral.exists_document (n : Numeral) : ∃ value, n.document = .scalar value none := by
  rw [Numeral.document]
  cases n.value? with
  | none | some => exact ⟨_, rfl⟩

theorem Written.stop {d : Document} {cs : List Char} (h : Written d cs) : d.stop = none := by
  cases h with
  | @number n | @negative n =>
    obtain ⟨value, eq⟩ := n.exists_document
    rw [eq]
    rfl
  | null | yes | no | text | emptyList | list | emptyObject | object => rfl

theorem isGap_nil : IsGap [] := nofun

theorem ends_closing {c : Char} (closing : c = ',' ∨ c = ']' ∨ c = '\x7d') (rest : List Char) :
    Ends (c :: rest) := by
  intro c' mem
  obtain rfl := Option.some.inj mem
  exact .inr closing

theorem ends_gap {gap : List Char} (spaces : IsGap gap) {rest : List Char} (ends : Ends rest) :
    Ends (gap ++ rest) := by
  cases gap with
  | nil => exact ends
  | cons c gap =>
    intro c' mem
    obtain rfl := Option.some.inj mem
    exact .inl (spaces c (by simp))

theorem scanWithin_emptyList {steps : Nat} {cs inner rest : List Char}
    (front : dropSpace cs = '[' :: inner) (seen : dropSpace inner = ']' :: rest) :
    scanWithin (steps + 1) cs = (.arr [] none, rest) := by
  simp only [scanWithin, front, seen]

theorem scanWithin_list {steps : Nat} {cs inner parts rest : List Char} {items : List Document}
    (front : dropSpace cs = '[' :: inner) (seen : dropSpace inner = parts)
    (first : ∃ c more, parts = c :: more ∧ c ≠ ']')
    (scanned : scanItems steps parts = (items, none, rest)) :
    scanWithin (steps + 1) cs = (.arr items none, rest) := by
  obtain ⟨c, more, rfl, open_list⟩ := first
  simp only [scanWithin, front, seen]
  split
  · contradiction
  · next heq => exact absurd (List.cons.inj heq).1 open_list
  · rw [scanned]

theorem scanWithin_emptyObject {steps : Nat} {cs inner rest : List Char}
    (front : dropSpace cs = '\x7b' :: inner) (seen : dropSpace inner = '\x7d' :: rest) :
    scanWithin (steps + 1) cs = (.obj [] none, rest) := by
  simp only [scanWithin, front, seen]

theorem scanWithin_object {steps : Nat} {cs inner parts rest : List Char}
    {members : List (Except Fault String × Document)} (front : dropSpace cs = '\x7b' :: inner)
    (seen : dropSpace inner = '"' :: parts)
    (scanned : scanMembers steps ('"' :: parts) = (members, none, rest)) :
    scanWithin (steps + 1) cs = (.obj members none, rest) := by
  simp only [scanWithin, front, seen]
  split
  · contradiction
  · next heq => exact absurd (List.cons.inj heq).1 (by decide)
  · rw [scanned]

mutual

/-- A document is found in whatever way it is written. -/
theorem Written.scanWithin_eq {d : Document} {cs : List Char} (h : Written d cs) {steps : Nat}
    {gap rest : List Char} (spaces : IsGap gap) (ends : Ends rest) (enough : 2 * cs.length ≤ steps) :
    scanWithin steps (gap ++ cs ++ rest) = (d, rest) := by
  have front : dropSpace (gap ++ cs ++ rest) = cs ++ rest := by
    rw [List.append_assoc, dropSpace_gap spaces, h.dropSpace_eq]
  obtain ⟨steps, rfl⟩ : ∃ k, steps = k + 1 := by
    obtain ⟨c, more, rfl, -⟩ := h.exists_cons
    exact ⟨steps - 1, by rw [List.length_cons] at enough; omega⟩
  cases h with
  | null | yes | no =>
    rw [scanWithin, front]
    rfl
  | number sign number =>
    have scanned := number.scanNumber_eq ends
    obtain ⟨c, more, rfl, digit⟩ := number.exists_cons
    rw [sign, List.cons_append, ← scanScalar_digit digit] at scanned
    rw [scanWithin, front, List.cons_append, ← scanned]
    split
    all_goals simp_all
  | negative sign number =>
    rw [scanWithin, front, List.cons_append, ← number.scanNumber_eq ends, sign]
    rfl
  | @text units cs spelled =>
    rw [scanWithin, front, List.cons_append, List.cons_append, List.append_assoc]
    change scanScalar '"' (cs ++ '"' :: rest) = _
    rw [scanScalar, spelled.scanText_eq]
    rfl
  | @emptyList gap' spaces' =>
    have opened : dropSpace _ = '[' :: (gap' ++ ']' :: rest) := front.trans (by simp)
    refine scanWithin_emptyList opened ?_
    rw [dropSpace_gap spaces', dropSpace_bracket]
  | @list items gap' cs spaces' parts =>
    obtain ⟨c, more, eq, seen, open_list⟩ := parts.exists_cons
    have enough' : 2 * cs.length + 1 ≤ steps := by
      simp only [List.length_append, List.length_cons] at enough
      omega
    have scanned := parts.scanItems_eq isGap_nil enough' rest
    have opened : dropSpace _ = '[' :: (gap' ++ (cs ++ ']' :: rest)) := front.trans (by simp)
    refine scanWithin_list opened ?_ ⟨c, more ++ ']' :: rest, by simp [eq], open_list⟩ scanned
    rw [dropSpace_gap spaces', eq, List.cons_append]
    exact dropSpace_cons seen _
  | @emptyObject gap' spaces' =>
    have opened : dropSpace _ = '\x7b' :: (gap' ++ '\x7d' :: rest) := front.trans (by simp)
    refine scanWithin_emptyObject opened ?_
    rw [dropSpace_gap spaces', dropSpace_brace]
  | @object members gap' cs spaces' parts =>
    have enough' : 2 * cs.length + 1 ≤ steps := by
      simp only [List.length_append, List.length_cons] at enough
      omega
    have scanned := parts.scanMembers_eq isGap_nil enough' rest
    obtain ⟨more, rfl⟩ := parts.exists_cons
    have opened : dropSpace _ = '\x7b' :: (gap' ++ ('"' :: more ++ '\x7d' :: rest)) :=
      front.trans (by simp)
    refine scanWithin_object opened ?_ scanned
    rw [dropSpace_gap spaces']
    exact dropSpace_cons (by decide) _

theorem WrittenItems.scanItems_eq {items : List Document} {cs : List Char} (h : WrittenItems items cs)
    {steps : Nat} {gap : List Char} (spaces : IsGap gap) (enough : 2 * cs.length + 1 ≤ steps)
    (rest : List Char) : scanItems steps (gap ++ cs ++ ']' :: rest) = (items, none, rest) := by
  obtain ⟨steps, rfl⟩ : ∃ k, steps = k + 1 := ⟨steps - 1, by omega⟩
  cases h with
  | @last item cs gap' first spaces' =>
    rw [List.length_append] at enough
    have scanned := first.scanWithin_eq spaces
      (ends_gap spaces' (ends_closing (.inr (.inl rfl)) rest)) (by omega : 2 * cs.length ≤ steps)
    rw [scanItems, ← List.append_assoc, List.append_assoc _ gap', scanned]
    simp only [first.stop, dropSpace_gap spaces', dropSpace_bracket]
  | @more item items cs gap' gap'' more first spaces' spaces'' parts =>
    simp only [List.length_append, List.length_cons] at enough
    have scanned := first.scanWithin_eq spaces
      (ends_gap spaces' (ends_closing (.inl rfl) (gap'' ++ more ++ ']' :: rest)))
      (by omega : 2 * cs.length ≤ steps)
    have others := parts.scanItems_eq spaces'' (by omega : 2 * more.length + 1 ≤ steps) rest
    have text : gap ++ (cs ++ gap' ++ ',' :: gap'' ++ more) ++ ']' :: rest =
        gap ++ cs ++ (gap' ++ ',' :: (gap'' ++ more ++ ']' :: rest)) := by simp
    rw [text, scanItems, scanned]
    simp only [first.stop, dropSpace_gap spaces', dropSpace_comma,
      others]

theorem WrittenMembers.scanMembers_eq {members : List (Except Fault String × Document)} {cs : List Char}
    (h : WrittenMembers members cs) {steps : Nat} {gap : List Char} (spaces : IsGap gap)
    (enough : 2 * cs.length + 1 ≤ steps) (rest : List Char) :
    scanMembers steps (gap ++ cs ++ '\x7d' :: rest) = (members, none, rest) := by
  obtain ⟨steps, rfl⟩ : ∃ k, steps = k + 1 := ⟨steps - 1, by omega⟩
  cases h with
  | @last value units name gap' gap'' cs gap₃ spelled spaces' spaces'' first spaces₃ =>
    simp only [List.length_append, List.length_cons] at enough
    have scanned := first.scanWithin_eq spaces''
      (ends_gap spaces₃ (ends_closing (.inr (.inr rfl)) rest)) (by omega : 2 * cs.length ≤ steps)
    have text : gap ++ ('"' :: name ++ '"' :: gap' ++ ':' :: gap'' ++ cs ++ gap₃) ++ '\x7d' :: rest =
        gap ++ '"' :: (name ++ '"' :: (gap' ++ ':' :: (gap'' ++ cs ++ (gap₃ ++ '\x7d' :: rest)))) := by
      simp
    rw [text, scanMembers, dropSpace_gap spaces, dropSpace_cons (by decide)]
    simp only [spelled.scanText_eq, dropSpace_gap spaces', dropSpace_colon, scanned, first.stop,
      dropSpace_gap spaces₃, dropSpace_brace]
  | @more value members units name gap' gap'' cs gap₃ gap₄ more spelled spaces' spaces'' first spaces₃ spaces₄
      parts =>
    simp only [List.length_append, List.length_cons] at enough
    have scanned := first.scanWithin_eq spaces''
      (ends_gap spaces₃ (ends_closing (.inl rfl) (gap₄ ++ more ++ '\x7d' :: rest)))
      (by omega : 2 * cs.length ≤ steps)
    have others := parts.scanMembers_eq spaces₄ (by omega : 2 * more.length + 1 ≤ steps) rest
    have text : gap ++ ('"' :: name ++ '"' :: gap' ++ ':' :: gap'' ++ cs ++ gap₃ ++ ',' :: gap₄ ++ more) ++
        '\x7d' :: rest =
        gap ++ '"' :: (name ++ '"' :: (gap' ++ ':' ::
          (gap'' ++ cs ++ (gap₃ ++ ',' :: (gap₄ ++ more ++ '\x7d' :: rest))))) := by simp
    rw [text, scanMembers, dropSpace_gap spaces, dropSpace_cons (by decide)]
    simp only [spelled.scanText_eq, dropSpace_gap spaces', dropSpace_colon, scanned, first.stop,
      dropSpace_gap spaces₃, dropSpace_comma, others]

end

/-- The document of a text is the one it is a way to write. -/
theorem Document.IsText.scan_eq {d : Document} {text : String} (h : d.IsText text) :
    ∃ rest, scan text.toList = (d, rest) ∧ dropSpace rest = [] := by
  obtain ⟨gap, cs, gap', spaces, written, spaces', eq⟩ := h
  have nothing : Ends [] := nofun
  have ends : Ends gap' := by simpa using ends_gap spaces' nothing
  refine ⟨gap', ?_, List.dropWhile_eq_nil_iff.2 spaces'⟩
  rw [scan, eq]
  exact written.scanWithin_eq spaces ends (by simp only [List.length_append]; omega)

/-! ## Parts of documents -/

/-- There is a way to write a document. -/
def Document.IsWellFormed (d : Document) : Prop :=
  ∃ cs, Written d cs

theorem Document.IsText.isWellFormed {d : Document} {text : String} (h : d.IsText text) :
    d.IsWellFormed := by
  obtain ⟨_, cs, _, _, written, _⟩ := h
  exact ⟨cs, written⟩

theorem WrittenItems.isWellFormed {items : List Document} {cs : List Char}
    (h : WrittenItems items cs) : ∀ d ∈ items, d.IsWellFormed := by
  cases h with
  | last first _ => exact List.forall_mem_singleton.2 ⟨_, first⟩
  | more first _ _ parts => exact List.forall_mem_cons.2 ⟨⟨_, first⟩, parts.isWellFormed⟩

theorem WrittenMembers.isWellFormed {members : List (Except Fault String × Document)} {cs : List Char}
    (h : WrittenMembers members cs) : ∀ m ∈ members, m.2.IsWellFormed := by
  cases h with
  | last _ _ _ first _ => exact List.forall_mem_singleton.2 ⟨_, first⟩
  | more _ _ _ first _ _ parts => exact List.forall_mem_cons.2 ⟨⟨_, first⟩, parts.isWellFormed⟩

namespace Document.IsWellFormed

theorem stop {d : Document} (h : d.IsWellFormed) : d.stop = none :=
  h.choose_spec.stop

theorem items {items : List Document} (h : (arr items none).IsWellFormed) :
    ∀ d ∈ items, d.IsWellFormed := by
  obtain ⟨cs, h⟩ := h
  generalize eq : arr items none = d at h
  cases h with
  | @number n | @negative n =>
    obtain ⟨value, scalar⟩ := n.exists_document
    cases eq.trans scalar
  | emptyList =>
    obtain ⟨rfl, -⟩ := arr.inj eq
    nofun
  | list _ parts =>
    obtain ⟨rfl, -⟩ := arr.inj eq
    exact parts.isWellFormed
  | null | yes | no | text | emptyObject | object => cases eq

theorem members {members : List (Except Fault String × Document)}
    (h : (obj members none).IsWellFormed) : ∀ m ∈ members, m.2.IsWellFormed := by
  obtain ⟨cs, h⟩ := h
  generalize eq : obj members none = d at h
  cases h with
  | @number n | @negative n =>
    obtain ⟨value, scalar⟩ := n.exists_document
    cases eq.trans scalar
  | emptyObject =>
    obtain ⟨rfl, -⟩ := obj.inj eq
    nofun
  | object _ parts =>
    obtain ⟨rfl, -⟩ := obj.inj eq
    exact parts.isWellFormed
  | null | yes | no | text | emptyList | list => cases eq

end Document.IsWellFormed

end Joinery.Json
