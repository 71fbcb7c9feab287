import Mathlib.Tactic.SplitIfs
import Joinery.Filter.Lexer

/-!
# Texts with a blank between them

A text with a blank and more behind it has its own lexemes and then those of the rest (`ReadsAs.lexemes_append`),
since what is found at the front of a text does not depend on what stands behind a blank (`scan_append`). A comment that
goes on to the end of the text is the exception: it takes the rest of its line with it (`lexemes_append_of_comment`).
-/

namespace Joinery.Filter

open Text

variable {d : Dialect} {more : List Char}

/-! ## Characters up to a blank -/

section Blank

variable {p : Char → Bool} (stop : p ' ' = false)

include stop

theorem takeWhile_append_blank (cs more : List Char) : (cs ++ ' ' :: more).takeWhile p = cs.takeWhile p := by
  induction cs with
  | nil => simp [stop]
  | cons c cs ih => by_cases h : p c <;> simp [h, ih]

theorem dropWhile_append_blank (cs more : List Char) :
    (cs ++ ' ' :: more).dropWhile p = cs.dropWhile p ++ ' ' :: more := by
  induction cs with
  | nil => simp [stop]
  | cons c cs ih => by_cases h : p c <;> simp [h, ih]

end Blank

theorem continuesName_blank (d : Dialect) : continuesName d ' ' = false := by
  cases d <;> decide +kernel

/-! ## Quoted texts -/

theorem consRead_eq_some_iff {c : Char} {read : Option (List Char × List Char)} {value rest : List Char} :
    consRead c read = some (value, rest) ↔ ∃ value', read = some (value', rest) ∧ c :: value' = value := by
  simp [consRead]

theorem readDelimited_append {closing : Char} (ne : closing ≠ ' ') {cs value rest : List Char}
    (read : readDelimited closing cs = some (value, rest)) :
    readDelimited closing (cs ++ ' ' :: more) = some (value, rest ++ ' ' :: more) := by
  fun_induction readDelimited closing cs generalizing value with
  | case1 => cases read
  | case2 =>
    obtain ⟨rfl, rfl⟩ := Prod.mk.inj (Option.some.inj read)
    simp [readDelimited, ne.symm]
  | case3 => cases read
  | case4 cs ih =>
    obtain ⟨value', read', rfl⟩ := consRead_eq_some_iff.1 read
    simp [readDelimited, ih read', consRead]
  | case5 c' cs ne' =>
    obtain ⟨rfl, rfl⟩ := Prod.mk.inj (Option.some.inj read)
    simp [readDelimited, ne']
  | case6 c c' cs ne' ih =>
    obtain ⟨value', read', rfl⟩ := consRead_eq_some_iff.1 read
    have behind := ih read'
    rw [List.cons_append] at behind
    simp [readDelimited, ne', behind, consRead]

theorem readBackslashed_append {closing : Char} (ne : closing ≠ ' ') {cs value rest : List Char}
    (read : readBackslashed closing cs = some (value, rest)) :
    readBackslashed closing (cs ++ ' ' :: more) = some (value, rest ++ ' ' :: more) := by
  fun_induction readBackslashed closing cs generalizing value with
  | case1 => cases read
  | case2 =>
    obtain ⟨rfl, rfl⟩ := Prod.mk.inj (Option.some.inj read)
    simp [readBackslashed, ne.symm]
  | case3 => cases read
  | case4 cs ih =>
    obtain ⟨value', read', rfl⟩ := consRead_eq_some_iff.1 read
    simp [readBackslashed, ih read', consRead]
  | case5 c' cs ne' =>
    obtain ⟨rfl, rfl⟩ := Prod.mk.inj (Option.some.inj read)
    simp [readBackslashed, ne']
  | case6 c' cs ne' ih =>
    obtain ⟨value', read', rfl⟩ := consRead_eq_some_iff.1 read
    simp [readBackslashed, ne', ih read', consRead]
  | case7 c c' cs ne' not_backslash ih =>
    obtain ⟨value', read', rfl⟩ := consRead_eq_some_iff.1 read
    have behind := ih read'
    rw [List.cons_append] at behind
    simp [readBackslashed, ne', not_backslash, behind, consRead]

theorem readText_append {backslash : Bool} {closing : Char} (ne : closing ≠ ' ') {cs value rest : List Char}
    (read : readText backslash closing cs = some (value, rest)) :
    readText backslash closing (cs ++ ' ' :: more) = some (value, rest ++ ' ' :: more) := by
  cases backslash with
  | false => exact readDelimited_append ne read
  | true => exact readBackslashed_append ne read

theorem takeExactly?_append {n : Nat} {cs code rest : List Char} (taken : takeExactly? n cs = some (code, rest)) :
    takeExactly? n (cs ++ more) = some (code, rest ++ more) := by
  unfold takeExactly? at taken ⊢
  split_ifs at taken with enough
  rw [List.splitAt_eq] at taken
  obtain ⟨rfl, rfl⟩ := Prod.mk.inj (Option.some.inj taken)
  rw [if_pos (by rw [List.length_append]; omega), List.splitAt_eq, List.take_append_of_le_length enough,
    List.drop_append_of_le_length enough]

theorem readCodePoint_append {digits : Nat} {cs rest : List Char} {c : Char}
    (read : readCodePoint digits cs = some (c, rest)) :
    readCodePoint digits (cs ++ more) = some (c, rest ++ more) := by
  simp only [readCodePoint, Option.bind_eq_bind, Option.bind_eq_some_iff, Option.pure_def, Prod.exists] at read ⊢
  obtain ⟨code, rest', taken, n, value, c', found, eq⟩ := read
  obtain ⟨rfl, rfl⟩ := Prod.mk.inj (Option.some.inj eq)
  exact ⟨code, rest' ++ more, takeExactly?_append taken, n, value, c', found, rfl⟩

theorem takeDigits_append {base limit : Nat} (cs : List Char) :
    takeDigits base limit (cs ++ ' ' :: more) =
      ((takeDigits base limit cs).1, (takeDigits base limit cs).2 ++ ' ' :: more) := by
  have stop : (digitValue? base ' ').isSome = false := by simp [digitValue?]
  have same : ((cs ++ ' ' :: more).take limit).takeWhile (fun c => (digitValue? base c).isSome) =
      (cs.take limit).takeWhile fun c => (digitValue? base c).isSome := by
    induction cs generalizing limit with
    | nil => cases limit <;> simp [stop]
    | cons c cs ih => cases limit with
      | zero => rfl
      | succ limit =>
        rw [List.cons_append, List.take_succ_cons, List.take_succ_cons, List.takeWhile_cons, List.takeWhile_cons, ih]
  have few : ((cs.take limit).takeWhile fun c => (digitValue? base c).isSome).length ≤ cs.length :=
    Nat.le_trans (List.takeWhile_sublist _).length_le (List.length_take_le' limit cs)
  simp only [takeDigits, same, List.drop_append_of_le_length few]

theorem readEscape_append {c c' : Char} {cs rest : List Char} (read : readEscape c cs = some (c', rest)) :
    readEscape c (cs ++ ' ' :: more) = some (c', rest ++ ' ' :: more) := by
  have unicode {digits : Nat} (read : readEscape.unicode cs digits = some (c', rest)) :
      readEscape.unicode (cs ++ ' ' :: more) digits = some (c', rest ++ ' ' :: more) := by
    simp only [readEscape.unicode, Option.bind_eq_bind, Option.bind_eq_some_iff, Option.pure_def, Prod.exists] at read ⊢
    obtain ⟨code, rest', taken, n, value, c'', found, eq⟩ := read
    obtain ⟨rfl, rfl⟩ := Prod.mk.inj (Option.some.inj eq)
    exact ⟨code, rest' ++ ' ' :: more, takeExactly?_append taken, n, value, c'', found, rfl⟩
  unfold readEscape at read ⊢
  split at read
  iterate 5
    obtain ⟨rfl, rfl⟩ := Prod.mk.inj (Option.some.inj read)
    rfl
  · exact unicode read
  · exact unicode read
  · simp only [takeDigits_append]
    split at read
    · next taken =>
      obtain ⟨rfl, rfl⟩ := Prod.mk.inj (Option.some.inj read)
      simp only [taken]
    · next taken =>
      simp only [Option.bind_eq_bind, Option.bind_eq_some_iff, Option.pure_def] at read ⊢
      obtain ⟨n, value, c'', found, eq⟩ := read
      obtain ⟨rfl, rfl⟩ := Prod.mk.inj (Option.some.inj eq)
      simp [taken, value, found]
  · split_ifs at read ⊢ with octal
    · simp only [takeDigits_append, Option.bind_eq_bind, Option.bind_eq_some_iff, Option.pure_def] at read ⊢
      obtain ⟨n, value, c'', found, eq⟩ := read
      obtain ⟨rfl, rfl⟩ := Prod.mk.inj (Option.some.inj eq)
      exact ⟨n, value, _, found, rfl⟩
    · obtain ⟨rfl, rfl⟩ := Prod.mk.inj (Option.some.inj read)
      rfl

theorem ne_cons_append {c : Char} (ne : c ≠ ' ') {cs : List Char} (other : ∀ rest, cs = c :: rest → False) :
    ∀ rest, cs ++ ' ' :: more = c :: rest → False := by
  cases cs with
  | nil => simp [ne.symm]
  | cons c' cs => simpa using other cs

theorem readEscaped_append {steps steps' : Nat} (enough : steps ≤ steps') {cs value rest : List Char}
    (read : readEscaped steps cs = some (value, rest)) :
    readEscaped steps' (cs ++ ' ' :: more) = some (value, rest ++ ' ' :: more) := by
  fun_induction readEscaped steps cs generalizing steps' value
  case case1 => cases read
  case case2 => cases read
  case case5 => cases read
  all_goals
    obtain ⟨steps', rfl⟩ := Nat.exists_eq_succ_of_ne_zero (Nat.ne_zero_of_lt enough)
    have fewer := Nat.le_of_succ_le_succ enough
  case case3 steps cs ih =>
    obtain ⟨value', read', rfl⟩ := consRead_eq_some_iff.1 read
    simp [readEscaped, ih fewer read', consRead]
  case case4 steps cs single =>
    obtain ⟨rfl, rfl⟩ := Prod.mk.inj (Option.some.inj read)
    rw [List.cons_append, readEscaped]
    exact ne_cons_append (by decide) single
  case case6 steps c cs ih =>
    obtain ⟨⟨c', rest'⟩, escaped, read⟩ := Option.bind_eq_some_iff.1 read
    simp only [Option.ite_none_left_eq_some] at read
    obtain ⟨value', read', rfl⟩ := consRead_eq_some_iff.1 read.2
    simp [readEscaped, readEscape_append escaped, read.1, ih _ fewer read', consRead]
  case case7 steps c cs not_quoted not_quote not_end not_escape ih =>
    obtain ⟨value', read', rfl⟩ := consRead_eq_some_iff.1 read
    have not_backslash : c ≠ '\\' := fun eq => by
      cases cs with
      | nil => exact not_end eq rfl
      | cons c' cs => exact not_escape c' cs eq rfl
    rw [List.cons_append, readEscaped, ih fewer read']
    · rfl
    · exact fun _ eq _ => not_quote eq
    · exact not_quote
    · exact fun eq _ => not_backslash eq
    · exact fun _ _ eq _ => not_backslash eq

theorem readCodePoints_append {steps steps' : Nat} (enough : steps ≤ steps') {cs value rest : List Char}
    (read : readCodePoints steps cs = some (value, rest)) :
    readCodePoints steps' (cs ++ ' ' :: more) = some (value, rest ++ ' ' :: more) := by
  fun_induction readCodePoints steps cs generalizing steps' value
  case case1 => cases read
  case case2 => cases read
  all_goals
    obtain ⟨steps', rfl⟩ := Nat.exists_eq_succ_of_ne_zero (Nat.ne_zero_of_lt enough)
    have fewer := Nat.le_of_succ_le_succ enough
  case case3 steps cs ih =>
    obtain ⟨value', read', rfl⟩ := consRead_eq_some_iff.1 read
    simp [readCodePoints, ih fewer read', consRead]
  case case4 steps cs single =>
    obtain ⟨rfl, rfl⟩ := Prod.mk.inj (Option.some.inj read)
    rw [List.cons_append, readCodePoints]
    exact ne_cons_append (by decide) single
  case case5 steps cs ih =>
    obtain ⟨value', read', rfl⟩ := consRead_eq_some_iff.1 read
    simp [readCodePoints, ih fewer read', consRead]
  case case6 steps cs ih =>
    obtain ⟨⟨c', rest'⟩, found, read⟩ := Option.bind_eq_some_iff.1 read
    obtain ⟨value', read', rfl⟩ := consRead_eq_some_iff.1 read
    simp [readCodePoints, readCodePoint_append found, ih _ fewer read', consRead]
  case case7 steps cs not_backslash not_plus ih =>
    obtain ⟨⟨c', rest'⟩, found, read⟩ := Option.bind_eq_some_iff.1 read
    obtain ⟨value', read', rfl⟩ := consRead_eq_some_iff.1 read
    rw [List.cons_append, readCodePoints, readCodePoint_append found]
    · simp [ih _ fewer read', consRead]
    · exact ne_cons_append (by decide) not_backslash
    · exact ne_cons_append (by decide) not_plus
  case case8 steps c cs not_quoted not_quote not_doubled not_plus not_backslash ih =>
    obtain ⟨value', read', rfl⟩ := consRead_eq_some_iff.1 read
    rw [List.cons_append, readCodePoints, ih fewer read']
    · rfl
    · exact fun _ eq _ => not_quote eq
    · exact not_quote
    · exact fun _ eq _ => not_backslash eq
    · exact fun _ eq _ => not_backslash eq
    · exact not_backslash

theorem readDollar_append {tag : List Char} {expected : Option (List Char)} {cs value rest : List Char}
    (read : readDollar tag expected cs = some (value, rest)) :
    readDollar tag expected (cs ++ more) = some (value, rest ++ more) := by
  induction cs generalizing expected value with
  | nil => simp [readDollar] at read
  | cons c cs ih =>
    match expected with
    | none =>
      obtain ⟨value', read', rfl⟩ := consRead_eq_some_iff.1 read
      simp [readDollar, ih read', consRead]
    | some [] =>
      simp only [List.cons_append, readDollar] at read ⊢
      split_ifs at read ⊢ with closes
      · obtain ⟨rfl, rfl⟩ := Prod.mk.inj (Option.some.inj read)
        rfl
      · obtain ⟨value', read', rfl⟩ := consRead_eq_some_iff.1 read
        rw [ih read']
        rfl
    | some (t :: ts) =>
      obtain ⟨value', read', rfl⟩ := consRead_eq_some_iff.1 read
      simp [readDollar, ih read', consRead]

/-! ## Scans -/

namespace Scan

/-- The same found in front of a longer text. -/
def before (more : List Char) : Scan → Scan
  | skip rest => skip (rest ++ more)
  | found l rest => found l (rest ++ more)
  | broken => broken

end Scan

/-- What one of the rules of scanning finds in front of a blank and more is what it finds alone, unless it finds that
the text is broken. -/
def Kept (more : List Char) (alone longer : Option Scan) : Prop :=
  alone = some .broken ∨ longer = alone.map (Scan.before (' ' :: more))

theorem Kept.none : Kept more none none :=
  .inr rfl

theorem Kept.orElse {alone longer alone' longer' : Option Scan} (h : Kept more alone longer)
    (h' : Kept more alone' longer') : Kept more (alone <|> alone') (longer <|> longer') := by
  rcases h with rfl | rfl
  · exact .inl rfl
  · cases alone with
    | none => exact h'
    | some s => exact .inr rfl

theorem Kept.ofRead {make : String → Lexeme} {read read' : Option (List Char × List Char)}
    (same : ∀ value rest, read = some (value, rest) → read' = some (value, rest ++ ' ' :: more)) :
    Kept more (some (.ofRead make read)) (some (.ofRead make read')) := by
  cases read with
  | none => exact .inl rfl
  | some found =>
    rw [same _ _ rfl]
    exact .inr rfl

theorem scanWord_append (start cs : List Char) :
    scanWord d start (cs ++ ' ' :: more) = (scanWord d start cs).before (' ' :: more) := by
  have stop := continuesName_blank d
  rw [scanWord, scanWord, takeWhile_append_blank stop, dropWhile_append_blank stop]
  rfl

theorem kept_scanMarked? (c : Char) (cs : List Char) :
    Kept more (scanMarked? d c cs) (scanMarked? d c (cs ++ ' ' :: more)) := by
  have quote : '\'' ≠ ' ' := by decide
  have double_quote : '"' ≠ ' ' := by decide
  unfold scanMarked?
  generalize c.toUpper = mark
  split <;> try simp only [List.cons_append]
  · split_ifs
    · exact .ofRead fun _ _ => readDelimited_append quote
    · exact .none
  · split_ifs
    · exact .ofRead fun _ _ => readDelimited_append double_quote
    · exact .none
  · exact .ofRead fun _ _ => readText_append quote
  · exact .ofRead fun _ _ => readEscaped_append (by simp)
  · split_ifs
    · exact .ofRead fun _ _ => readCodePoints_append (by simp)
    · exact .none
  · exact .ofRead fun _ _ => readBackslashed_append quote
  · -- The marks in front of a quote have two characters at most, so a blank behind them makes none.
    rcases cs with _ | ⟨first, _ | ⟨second, cs⟩⟩ <;> split <;> first | exact .none | simp_all

theorem kept_scanQuoted? (c : Char) (cs : List Char) :
    Kept more (scanQuoted? d c cs) (scanQuoted? d c (cs ++ ' ' :: more)) := by
  unfold scanQuoted?
  split_ifs with single opens double
  · exact .ofRead fun _ _ => readText_append (by decide)
  · have not_blank : c ≠ ' ' := by
      rintro rfl
      revert opens
      cases d <;> decide
    have closing : closingOf c ≠ ' ' := by
      unfold closingOf
      split_ifs
      · decide
      · exact not_blank
    exact .ofRead fun _ _ => readDelimited_append closing
  · exact .ofRead fun _ _ => readText_append (by decide)
  · exact .none

/-! ## Numbers -/

theorem isDigit_blank : Char.isDigit ' ' = false := by
  decide

theorem isMark_blank : exponent.isMark ' ' = false := by
  decide

/-- An exponent stands at the front, if there is one. -/
theorem exponent_sublist (cs : List Char) : (exponent cs).Sublist cs := by
  unfold exponent
  dsimp only
  split <;> try split_ifs
  all_goals try exact List.nil_sublist _
  · next e rest _ =>
    split
    · exact List.nil_sublist _
    · exact (List.takeWhile_sublist _).append_left [e, '+']
  · next e rest _ =>
    split
    · exact List.nil_sublist _
    · exact (List.takeWhile_sublist _).append_left [e, '-']
  · next e rest _ _ _ =>
    split
    · exact List.nil_sublist _
    · exact (List.takeWhile_sublist _).append_left [e]

theorem exponent_append (cs : List Char) : exponent (cs ++ ' ' :: more) = exponent cs := by
  rcases cs with _ | ⟨e, _ | ⟨sign, cs⟩⟩
  · unfold exponent
    rw [List.nil_append]
    split
    · next eq => simp [← (List.cons.inj eq).1, isMark_blank]
    · next eq => simp [← (List.cons.inj eq).1, isMark_blank]
    · next eq => simp [← (List.cons.inj eq).1, isMark_blank]
    · rfl
  · simp [exponent, isDigit_blank]
  · by_cases plus : sign = '+'
    · simp [plus, exponent, takeWhile_append_blank isDigit_blank]
    by_cases minus : sign = '-'
    · simp [minus, exponent, takeWhile_append_blank isDigit_blank]
    · have digits := takeWhile_append_blank isDigit_blank (sign :: cs) more
      rw [List.cons_append] at digits
      simp [exponent, plus, minus, digits]

theorem scanNumberEnd_append (digits cs : List Char) :
    scanNumberEnd d digits (cs ++ ' ' :: more) = (scanNumberEnd d digits cs).before (' ' :: more) := by
  unfold scanNumberEnd
  simp only [exponent_append, takeWhile_append_blank (continuesName_blank d), scanWord_append,
    List.drop_append_of_le_length (exponent_sublist cs).length_le]
  rcases cs with _ | ⟨e, cs⟩
  · simp [Scan.before]
  · dsimp only [List.cons_append]
    split_ifs
    · rfl
    · rcases (e :: cs).drop (exponent (e :: cs)).length with _ | ⟨c, rest⟩
      · rfl
      · by_cases long : c = 'L'
        · rw [long]
          rfl
        · simp [long, Scan.before]

theorem kept_scanNumber? (c : Char) (cs : List Char) :
    Kept more (scanNumber? d c cs) (scanNumber? d c (cs ++ ' ' :: more)) := by
  have hex_stop : (fun c => (digitValue? 16 c).isSome) ' ' = false := by decide
  have whole := takeWhile_append_blank isDigit_blank (c :: cs) more
  have behind := dropWhile_append_blank isDigit_blank (c :: cs) more
  rw [List.cons_append] at whole behind
  unfold scanNumber?
  split_ifs with number
  · simp only [whole, behind]
    generalize (c :: cs).takeWhile Char.isDigit = digits
    generalize (c :: cs).dropWhile Char.isDigit = rest
    split
    · next rest =>
      simp only [List.cons_append]
      split_ifs
      · rw [takeWhile_append_blank (by exact hex_stop), dropWhile_append_blank (by exact hex_stop)]
        exact .inr rfl
      · exact .inr (congrArg some (scanNumberEnd_append digits ('x' :: rest)))
    · simp only [List.cons_append, takeWhile_append_blank isDigit_blank, dropWhile_append_blank isDigit_blank]
      split
      · exact .inr rfl
      · exact .inr (congrArg some (scanNumberEnd_append _ _))
    · next not_hex not_point =>
      split
      · next eq => exact absurd eq (ne_cons_append (by decide) not_hex _)
      · next eq => exact absurd eq (ne_cons_append (by decide) not_point _)
      · exact .inr (congrArg some (scanNumberEnd_append digits rest))
  · exact .none

/-! ## Comments -/

/-- The text begins with a comment up to the end of its line, and its last line is that one. -/
def opensComment (d : Dialect) (c : Char) (cs : List Char) : Bool :=
  match c, cs with
  | '-', '-' :: cs => !cs.contains '\n'
  | '#', cs => d = .mysql && !cs.contains '\n'
  | _, _ => false

theorem afterLine_append {cs : List Char} (ended : '\n' ∈ cs) (more : List Char) :
    afterLine (cs ++ more) = afterLine cs ++ more := by
  obtain ⟨line, lines, rfl, unbroken⟩ := List.eq_append_cons_of_mem ended
  have kept : ∀ c ∈ line, (c ≠ '\n' : Bool) = true := fun c mem => decide_eq_true fun eq => unbroken (eq ▸ mem)
  rw [afterLine, afterLine, List.append_assoc, List.cons_append, List.dropWhile_append_of_pos kept,
    List.dropWhile_append_of_pos kept]
  simp

theorem afterLine_append_of_open {cs : List Char} (unbroken : '\n' ∉ cs) (more : List Char) :
    afterLine (cs ++ more) = afterLine more := by
  have kept : ∀ c ∈ cs, (c ≠ '\n' : Bool) = true := fun c mem => decide_eq_true fun eq => unbroken (eq ▸ mem)
  rw [afterLine, List.dropWhile_append_of_pos kept, afterLine]

theorem afterComment_append {nested : Nat} {last : Char} {cs rest : List Char}
    (read : afterComment nested last cs = some rest) :
    afterComment nested last (cs ++ more) = some (rest ++ more) := by
  induction cs generalizing nested last with
  | nil => cases read
  | cons c cs ih =>
    rw [List.cons_append]
    unfold afterComment at read ⊢
    split_ifs at read ⊢ with opens closes
    · exact ih read
    · cases nested with
      | zero => exact congrArg (fun rest => some (rest ++ more)) (Option.some.inj read)
      | succ nested => exact ih read
    · exact ih read

theorem kept_scanComment? {c : Char} {cs : List Char} (closed : opensComment d c cs = false) :
    Kept more (scanComment? d c cs) (scanComment? d c (cs ++ ' ' :: more)) := by
  unfold scanComment?
  unfold opensComment at closed
  split
  · next text =>
    simp only [Bool.not_eq_false', List.contains_iff_mem] at closed
    simp only [List.cons_append]
    rw [afterLine_append closed]
    exact .inr rfl
  · split_ifs with is_mysql
    · simp only [is_mysql, decide_true, Bool.true_and, Bool.not_eq_false', List.contains_iff_mem] at closed
      rw [afterLine_append closed]
      exact .inr rfl
    · exact .none
  · next text =>
    simp only [List.cons_append]
    cases read : afterComment 0 ' ' text with
    | none => exact .inl rfl
    | some rest =>
      rw [afterComment_append read]
      exact .inr rfl
  · next not_hash not_dash not_slash =>
    split
    · next dash eq => exact absurd eq (ne_cons_append (by decide) (fun rest => not_dash rest rfl) _)
    · exact absurd rfl not_hash
    · next slash eq => exact absurd eq (ne_cons_append (by decide) (fun rest => not_slash rest rfl) _)
    · exact .none

/-! ## Symbols -/

theorem isPrefixOf?_append_blank {mark : List Char} (no_blank : ' ' ∉ mark) (cs more : List Char) :
    mark.isPrefixOf? (cs ++ ' ' :: more) = (mark.isPrefixOf? cs).map (· ++ ' ' :: more) := by
  induction mark generalizing cs with
  | nil => rfl
  | cons c mark ih =>
    rw [List.mem_cons, not_or] at no_blank
    cases cs with
    | nil =>
      change (if c == ' ' then mark.isPrefixOf? more else none) = none
      exact if_neg (by simpa using Ne.symm no_blank.1)
    | cons c' cs =>
      change (if c == c' then mark.isPrefixOf? (cs ++ ' ' :: more) else none) =
        (if c == c' then mark.isPrefixOf? cs else none).map (· ++ ' ' :: more)
      split_ifs
      · exact ih no_blank.2 cs
      · rfl

theorem symbolOf?_append {symbols : List String} (no_blank : ∀ s ∈ symbols, ' ' ∉ s.toList) (cs more : List Char) :
    symbolOf? symbols (cs ++ ' ' :: more) =
      (symbolOf? symbols cs).map fun (mark, rest) => (mark, rest ++ ' ' :: more) := by
  induction symbols with
  | nil => rfl
  | cons s symbols ih =>
    rw [List.forall_mem_cons] at no_blank
    have rest := ih no_blank.2
    unfold symbolOf? at rest ⊢
    rw [List.findSome?_cons, List.findSome?_cons, isPrefixOf?_append_blank no_blank.1, rest]
    cases s.toList.isPrefixOf? cs <;> rfl

theorem extendsOperator_blank (d : Dialect) : extendsOperator d ' ' = false := by
  cases d <;> decide

theorem kept_scanSymbol? (cs : List Char) : Kept more (scanSymbol? d cs) (scanSymbol? d (cs ++ ' ' :: more)) := by
  have closed : ∀ s ∈ if d = .duckdb then "//" :: closedSymbols else closedSymbols, ' ' ∉ s.toList := by
    cases d <;> decide
  have opened : ∀ s ∈ openSymbols, ' ' ∉ s.toList := by decide
  unfold scanSymbol?
  rw [symbolOf?_append closed, symbolOf?_append opened]
  cases symbolOf? (if d = .duckdb then "//" :: closedSymbols else closedSymbols) cs with
  | some found => exact .inr rfl
  | none =>
    cases symbolOf? openSymbols cs with
    | none => exact .none
    | some found =>
      refine .inr (congrArg some ?_)
      simp only [takeWhile_append_blank (extendsOperator_blank d), dropWhile_append_blank (extendsOperator_blank d)]
      split <;> rfl

theorem kept_scanSigned? (c : Char) (cs : List Char) :
    Kept more (scanSigned? d c cs) (scanSigned? d c (cs ++ ' ' :: more)) := by
  unfold scanSigned?
  split_ifs
  · split <;> try simp only [List.cons_append]
    · split_ifs
      · exact .none
      · exact .inr (congrArg some (scanWord_append _ _))
    · split_ifs
      · exact .none
      · exact .inr (congrArg some (scanWord_append _ _))
    · next second rest not_doubled _ =>
      by_cases doubled : second = '@'
      · have rest_nil : rest = [] := by
          cases rest with
          | nil => rfl
          | cons third rest => exact (not_doubled third rest doubled rfl).elim
        subst doubled rest_nil
        exact .none
      · simp only [doubled, false_implies, implies_true, false_and, if_false]
        split_ifs
        · exact .none
        · exact .inr (congrArg some (scanWord_append _ _))
    · next no_number no_doubled no_single =>
      -- Nothing stands behind a sign that begins no word, and then a blank does not begin one with it.
      split
      · next second rest eq _ =>
        have nothing : cs = [] := List.eq_nil_iff_forall_not_mem.2 fun _ _ => by
          cases cs with
          | nil => contradiction
          | cons c cs => exact no_number c cs rfl rfl
        subst nothing
        rw [← (List.cons.inj eq).1]
        exact .none
      · next eq => exact absurd eq (by cases cs <;> simp_all)
      · next second rest not_doubled eq _ =>
        have nothing : cs = [] := List.eq_nil_iff_forall_not_mem.2 fun _ _ => by
          cases cs with
          | nil => contradiction
          | cons c cs => exact no_single c cs rfl rfl
        subst nothing
        rw [← (List.cons.inj eq).1]
        exact .none
      · exact .none
  · exact .none

/-! ## Lexemes -/

theorem scanDollar_append {cs : List Char} (sound : scanDollar cs ≠ .broken) :
    scanDollar (cs ++ ' ' :: more) = (scanDollar cs).before (' ' :: more) := by
  have stop : (fun c => isAlphanumeric c || c == '_') ' ' = false := by decide +kernel
  have tag := takeWhile_append_blank (p := fun c => isAlphanumeric c || c == '_') stop cs more
  have behind := dropWhile_append_blank (p := fun c => isAlphanumeric c || c == '_') stop cs more
  unfold scanDollar at sound ⊢
  simp only [tag, behind] at sound ⊢
  generalize cs.dropWhile (fun c => isAlphanumeric c || c == '_') = rest at sound ⊢
  split at sound
  · next rest =>
    simp only [List.cons_append]
    cases read : readDollar (cs.takeWhile fun c => isAlphanumeric c || c == '_') none rest with
    | none => simp [read] at sound
    | some found =>
      rw [readDollar_append read]
      rfl
  · next no_dollar =>
    split
    · next eq => exact absurd eq (ne_cons_append (by decide) no_dollar _)
    · rfl

/-- What the rules find that begin with a certain character. -/
def scanRule? (d : Dialect) (c : Char) (cs : List Char) : Option Scan :=
  scanMarked? d c cs <|> scanQuoted? d c cs <|> scanNumber? d c cs <|> scanComment? d c cs <|> scanSigned? d c cs <|>
    scanSymbol? d (c :: cs)

/-- What is found where none of these rules finds anything. -/
def scanRest (d : Dialect) (c : Char) (cs : List Char) : Scan :=
  if c = '?' then scanQuestion d cs
  else if startsName d c then scanWord d [c] cs
  else if c = '$' then scanDollar cs
  else if isBlank c then .skip cs
  else .found (.other c) cs

theorem scan_eq (d : Dialect) (c : Char) (cs : List Char) : scan d c cs =
    if [' ', '\t', '\n', '\r'].contains c then .skip cs else (scanRule? d c cs).getD (scanRest d c cs) := by
  rw [scan]
  by_cases blank : [' ', '\t', '\n', '\r'].contains c = true
  · rw [if_pos blank, if_pos blank]
  · rw [if_neg blank, if_neg blank]
    cases found : scanRule? d c cs with
    | some s =>
      rw [scanRule?] at found
      rw [found]
      rfl
    | none =>
      rw [scanRule?] at found
      rw [found]
      rfl

theorem kept_scanRule? (more : List Char) {c : Char} {cs : List Char} (closed : opensComment d c cs = false) :
    Kept more (scanRule? d c cs) (scanRule? d c (cs ++ ' ' :: more)) :=
  (kept_scanMarked? c cs).orElse <| (kept_scanQuoted? c cs).orElse <| (kept_scanNumber? c cs).orElse <|
    (kept_scanComment? closed).orElse <| (kept_scanSigned? c cs).orElse <| kept_scanSymbol? (c :: cs)

/-- A question mark at the end takes the blank with it in one dialect. -/
theorem scanQuestion_append (cs : List Char) :
    scanQuestion d (cs ++ ' ' :: more) = (scanQuestion d cs).before (' ' :: more) ∨
      ∃ l, scanQuestion d cs = .found l [] ∧ scanQuestion d (cs ++ ' ' :: more) = .found l more := by
  have stop : isNumeric ' ' = false := by decide +kernel
  unfold scanQuestion
  split_ifs with is_postgres
  · rcases cs with _ | ⟨c, cs⟩
    · exact .inr ⟨_, rfl, rfl⟩
    · left
      split <;> simp_all [Scan.before]
  · left
    rw [takeWhile_append_blank stop, dropWhile_append_blank stop]
    rfl

theorem scanRest_append {c : Char} {cs : List Char} (sound : scanRest d c cs ≠ .broken) :
    scanRest d c (cs ++ ' ' :: more) = (scanRest d c cs).before (' ' :: more) ∨
      ∃ l, scanRest d c cs = .found l [] ∧ scanRest d c (cs ++ ' ' :: more) = .found l more := by
  unfold scanRest at sound ⊢
  split_ifs at sound ⊢
  · exact scanQuestion_append cs
  · exact .inl (scanWord_append [c] cs)
  · exact .inl (scanDollar_append sound)
  · exact .inl rfl
  · exact .inl rfl

/-- A blank and more behind a text leave what is found at its front, unless that is a comment that goes on to the
end. -/
theorem scan_append (more : List Char) {c : Char} {cs : List Char} (sound : scan d c cs ≠ .broken)
    (closed : opensComment d c cs = false) :
    scan d c (cs ++ ' ' :: more) = (scan d c cs).before (' ' :: more) ∨
      ∃ l, scan d c cs = .found l [] ∧ scan d c (cs ++ ' ' :: more) = .found l more := by
  simp only [scan_eq] at sound ⊢
  split_ifs at sound ⊢ with blank
  · exact .inl rfl
  rcases kept_scanRule? more closed with broken | kept
  · exact absurd (by rw [broken]; rfl) sound
  · rw [kept]
    cases found : scanRule? d c cs with
    | some s => exact .inl rfl
    | none =>
      rw [found] at sound
      exact scanRest_append sound

/-- Where a comment goes on to the end, it goes on to the end of the first line behind that. -/
theorem scan_of_opensComment {c : Char} {cs : List Char} (opens : opensComment d c cs = true) (more : List Char) :
    scan d c (cs ++ more) = .skip (afterLine more) := by
  unfold opensComment at opens
  split at opens
  · next text =>
    have no_name : opensName d '-' = false := by cases d <;> decide
    have unbroken : '\n' ∉ text := by simpa using opens
    have rule : scanRule? d '-' ('-' :: text ++ more) = some (.skip (afterLine (text ++ more))) := by
      simp [scanRule?, scanMarked?, scanQuoted?, no_name, scanNumber?, scanComment?]
    rw [scan_eq, if_neg (by decide), rule, afterLine_append_of_open unbroken]
    rfl
  · have no_name : opensName .mysql '#' = false := by decide
    obtain ⟨rfl, unbroken⟩ : d = .mysql ∧ '\n' ∉ cs := by simpa using opens
    have rule : scanRule? .mysql '#' (cs ++ more) = some (.skip (afterLine (cs ++ more))) := by
      simp [scanRule?, scanMarked?, scanQuoted?, no_name, scanNumber?, scanComment?]
    rw [scan_eq, if_neg (by decide), rule, afterLine_append_of_open unbroken]
    rfl
  · cases opens

/-- The text ends in a comment that goes on to the end of its line, which is seen in the given number of steps. -/
def endsInCommentWithin (d : Dialect) : (steps : Nat) → List Char → Bool
  | 0, _ | _, [] => false
  | steps + 1, c :: cs =>
    opensComment d c cs ||
      match scan d c cs with
      | .skip rest | .found _ rest => endsInCommentWithin d steps rest
      | .broken => false

/-- The text ends in a comment that goes on to the end of its line. -/
def endsInComment (d : Dialect) (text : String) : Bool :=
  endsInCommentWithin d text.toList.length text.toList

theorem lexemesWithin_mono {steps steps' : Nat} (enough : steps ≤ steps') {cs : List Char} {ls : List Lexeme}
    (read : lexemesWithin d steps cs = some ls) : lexemesWithin d steps' cs = some ls := by
  induction steps generalizing steps' cs ls with
  | zero =>
    cases cs with
    | nil => cases steps' <;> exact read
    | cons c cs => cases read
  | succ steps ih =>
    obtain ⟨steps', rfl⟩ := Nat.exists_eq_succ_of_ne_zero (Nat.ne_zero_of_lt enough)
    have fewer := Nat.le_of_succ_le_succ enough
    cases cs with
    | nil => exact read
    | cons c cs =>
      unfold lexemesWithin at read ⊢
      split at read
      · exact ih fewer read
      · obtain ⟨ls', read', rfl⟩ := Option.map_eq_some_iff.1 read
        rw [ih fewer read']
        rfl
      · cases read

/-- More steps than it takes to read a text see no other comment at its end. -/
theorem endsInCommentWithin_eq {steps steps' : Nat} (enough : steps ≤ steps') {cs : List Char} {ls : List Lexeme}
    (read : lexemesWithin d steps cs = some ls) :
    endsInCommentWithin d steps' cs = endsInCommentWithin d steps cs := by
  induction steps generalizing steps' cs ls with
  | zero =>
    cases cs with
    | nil => cases steps' <;> rfl
    | cons c cs => cases read
  | succ steps ih =>
    obtain ⟨steps', rfl⟩ := Nat.exists_eq_succ_of_ne_zero (Nat.ne_zero_of_lt enough)
    have fewer := Nat.le_of_succ_le_succ enough
    cases cs with
    | nil => rfl
    | cons c cs =>
      unfold lexemesWithin at read
      unfold endsInCommentWithin
      cases scanned : scan d c cs with
      | broken => rfl
      | skip rest =>
        rw [scanned] at read
        exact congrArg (opensComment d c cs || ·) (ih fewer read)
      | found l rest =>
        rw [scanned] at read
        obtain ⟨ls', read', rfl⟩ := Option.map_eq_some_iff.1 read
        exact congrArg (opensComment d c cs || ·) (ih fewer read')

/-- The lexemes of a text stay when more stands behind a blank, unless the text ends in a comment. -/
theorem lexemesWithin_append {steps steps' : Nat} {cs : List Char} {ls ls' : List Lexeme}
    (read : lexemesWithin d steps cs = some ls) (closed : endsInCommentWithin d steps cs = false)
    (read' : lexemesWithin d steps' more = some ls') :
    lexemesWithin d (steps + 1 + steps') (cs ++ ' ' :: more) = some (ls ++ ls') := by
  induction steps generalizing cs ls with
  | zero =>
    cases cs with
    | nil =>
      obtain rfl := Option.some.inj read
      rw [Nat.zero_add, Nat.add_comm]
      exact read'
    | cons c cs => cases read
  | succ steps ih =>
    have more_read : lexemesWithin d (steps + 1 + steps') more = some ls' := lexemesWithin_mono (by omega) read'
    rw [show steps + 1 + 1 + steps' = steps + 1 + steps' + 1 by omega]
    cases cs with
    | nil =>
      obtain rfl := Option.some.inj read
      exact more_read
    | cons c cs =>
      simp only [endsInCommentWithin, Bool.or_eq_false_iff] at closed
      have sound : scan d c cs ≠ .broken := fun broken => by simp [lexemesWithin, broken] at read
      rw [List.cons_append, lexemesWithin]
      unfold lexemesWithin at read
      rcases scan_append more sound closed.1 with kept | ⟨l, alone, longer⟩
      · rw [kept]
        cases scanned : scan d c cs with
        | broken => exact absurd scanned sound
        | skip rest =>
          rw [scanned] at read closed
          exact ih read closed.2
        | found l rest =>
          rw [scanned] at read closed
          obtain ⟨front, read_front, rfl⟩ := Option.map_eq_some_iff.1 read
          exact congrArg (Option.map (l :: ·)) (ih read_front closed.2)
      · rw [longer]
        rw [alone] at read
        obtain ⟨front, read_front, rfl⟩ := Option.map_eq_some_iff.1 read
        have nothing : front = [] := by cases steps <;> exact (Option.some.inj read_front).symm
        rw [nothing]
        exact congrArg (Option.map (l :: ·)) more_read

/-- What stands behind a text that ends in a comment is read from its next line on. -/
theorem lexemesWithin_append_of_comment {steps steps' : Nat} {cs : List Char} {ls ls' : List Lexeme}
    (read : lexemesWithin d steps cs = some ls) (opened : endsInCommentWithin d steps cs = true)
    (read' : lexemesWithin d steps' (afterLine more) = some ls') :
    lexemesWithin d (steps + steps') (cs ++ ' ' :: more) = some (ls ++ ls') := by
  induction steps generalizing cs ls with
  | zero => cases opened
  | succ steps ih =>
    rw [show steps + 1 + steps' = steps + steps' + 1 by omega]
    cases cs with
    | nil => cases opened
    | cons c cs =>
      simp only [endsInCommentWithin, Bool.or_eq_true] at opened
      rw [List.cons_append, lexemesWithin]
      unfold lexemesWithin at read
      by_cases here : opensComment d c cs = true
      · have alone := scan_of_opensComment here []
        rw [List.append_nil] at alone
        rw [alone] at read
        have nothing : ls = [] := by cases steps <;> exact (Option.some.inj read).symm
        rw [scan_of_opensComment here, nothing]
        exact lexemesWithin_mono (Nat.le_add_left steps' steps) read'
      have sound : scan d c cs ≠ .broken := fun broken => by simp [broken] at read
      have later := opened.resolve_left here
      rcases scan_append more sound (Bool.eq_false_iff.2 here) with kept | ⟨l, alone, longer⟩
      · rw [kept]
        cases scanned : scan d c cs with
        | broken => exact absurd scanned sound
        | skip rest =>
          rw [scanned] at read later
          exact ih read later
        | found l rest =>
          rw [scanned] at read later
          obtain ⟨front, read_front, rfl⟩ := Option.map_eq_some_iff.1 read
          exact congrArg (Option.map (l :: ·)) (ih read_front later)
      · rw [alone] at later
        cases steps <;> cases later

/-! ## Texts -/

/-- A text has these lexemes and does not end in a comment. -/
structure ReadsAs (d : Dialect) (text : String) (ls : List Lexeme) : Prop where
  read : lexemes d text = some ls
  closed : endsInComment d text = false

instance (d : Dialect) (text : String) (ls : List Lexeme) : Decidable (ReadsAs d text ls) :=
  decidable_of_iff (lexemes d text = some ls ∧ endsInComment d text = false)
    ⟨fun ⟨read, closed⟩ => ⟨read, closed⟩, fun ⟨read, closed⟩ => ⟨read, closed⟩⟩

/-- Fewer steps than a text has characters may be enough to read it. -/
theorem ReadsAs.of_steps (steps : Nat) {text : String} {ls : List Lexeme} (few : steps ≤ text.toList.length)
    (read : lexemesWithin d steps text.toList = some ls) (closed : endsInCommentWithin d steps text.toList = false) :
    ReadsAs d text ls :=
  ⟨lexemesWithin_mono few read, (endsInCommentWithin_eq few read).trans closed⟩

theorem ReadsAs.lexemes_append {a b : String} {ls ls' : List Lexeme} (first : ReadsAs d a ls)
    (read : lexemes d b = some ls') : lexemes d (a ++ " " ++ b) = some (ls ++ ls') := by
  have both := lexemesWithin_append first.read first.closed read
  unfold lexemes
  simpa [Nat.add_assoc, Nat.add_comm 1] using both

theorem lexemes_append_of_comment {a b : String} {ls ls' : List Lexeme} (read : lexemes d a = some ls)
    (opened : endsInComment d a = true) (read' : lexemes d (String.ofList (afterLine b.toList)) = some ls') :
    lexemes d (a ++ " " ++ b) = some (ls ++ ls') := by
  have fewer : (afterLine b.toList).length ≤ b.toList.length := by
    simp only [afterLine, List.length_drop]
    exact Nat.le_trans (Nat.sub_le _ _) (List.dropWhile_sublist _).length_le
  rw [lexemes, String.toList_ofList] at read'
  have both := lexemesWithin_append_of_comment read opened read'
  unfold lexemes
  refine lexemesWithin_mono ?_ (by simpa using both)
  simp only [String.toList_append, List.length_append]
  omega

theorem readsAs_and (d : Dialect) : ReadsAs d "AND" [.word "AND" none] := by
  cases d <;> decide +kernel

theorem ReadsAs.toList_ne_nil {text : String} {l : Lexeme} {ls : List Lexeme} (reads : ReadsAs d text (l :: ls)) :
    text.toList ≠ [] := by
  intro nothing
  have read := reads.read
  rw [lexemes, nothing] at read
  cases read

theorem ReadsAs.append {a b : String} {ls ls' : List Lexeme} (first : ReadsAs d a ls) (second : ReadsAs d b ls') :
    ReadsAs d (a ++ " " ++ b) (ls ++ ls') := by
  have both := first.lexemes_append second.read
  refine ⟨both, Bool.eq_false_iff.2 fun opened => ?_⟩
  -- A word behind a comment would be part of it, but behind the second text it is read.
  have word : lexemes d "AND" = some [.word "AND" none] := (readsAs_and d).read
  have nothing : lexemes d (String.ofList (afterLine "AND".toList)) = some [] := by
    cases d <;> decide +kernel
  have lost := lexemes_append_of_comment both opened nothing
  have kept := first.lexemes_append (second.lexemes_append word)
  rw [← String.append_assoc, ← String.append_assoc, lost] at kept
  simp at kept

end Joinery.Filter
