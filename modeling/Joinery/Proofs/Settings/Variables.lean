import Mathlib.Data.List.TakeWhile
import Joinery.Proofs.Outcome
import Joinery.Settings.Basic

/-!
# Parts of texts with variables

A text with variables is made of parts: plain text, names between braces, names without, and dollar signs that no
name follows (`MadeOf`). Reading it character by character finds these parts (`MadeOf.segmentsFrom_eq`), whatever
stands next to each other, so the text is expanded part by part, from the left, in one pass
(`expansion_by_parts`). Every text is made of parts in which the last opening brace is closed.
-/

namespace Joinery.Settings

open Text

/-! ## Parts -/

/-- A part of a text that names variables. -/
inductive Part
  | plain (text : List Char)
  /-- A name between braces. -/
  | braced (name : List Char)
  /-- A name right behind a dollar sign. -/
  | bare (name : List Char)
  /-- A dollar sign that no name follows. -/
  | dollar
  deriving DecidableEq

namespace Part

/-- The variable that a part names. -/
def name? : Part → Option String
  | braced name | bare name => some (String.ofList name)
  | plain _ | dollar => none

/-- What stands in the place of a part: itself, or the value of its variable as it is. -/
def text (value : String → Option String) : Part → String
  | plain text => String.ofList text
  | braced name | bare name => (value (String.ofList name)).getD ""
  | dollar => "$"

/-- The pieces that are read in a part. -/
def segments : Part → List Segment
  | plain text => text.map .char
  | braced name | bare name => [.named (String.ofList name)]
  | dollar => [.char '$']

end Part

/-- A text is made of parts. What stands behind a name without braces or a lone dollar sign does not belong to
it. -/
inductive MadeOf : List Part → List Char → Prop
  | nil : MadeOf [] []
  | plain {text rest : List Char} {parts : List Part} (no_dollar : '$' ∉ text) (more : MadeOf parts rest) :
      MadeOf (.plain text :: parts) (text ++ rest)
  | braced {name rest : List Char} {parts : List Part} (unclosed : '\x7d' ∉ name) (more : MadeOf parts rest) :
      MadeOf (.braced name :: parts) ('$' :: '\x7b' :: name ++ '\x7d' :: rest)
  | bare {name rest : List Char} {parts : List Part} (some_char : name ≠ [])
      (of_name : ∀ c ∈ name, isNameChar c = true) (ended : ∀ c ∈ rest.head?, isNameChar c = false)
      (more : MadeOf parts rest) : MadeOf (.bare name :: parts) ('$' :: name ++ rest)
  | dollar {rest : List Char} {parts : List Part}
      (alone : ∀ c ∈ rest.head?, c ≠ '\x7b' ∧ isNameChar c = false) (more : MadeOf parts rest) :
      MadeOf (.dollar :: parts) ('$' :: rest)

/-! ## Reading parts -/

section Reading

variable {text name read rest : List Char}

theorem isNameChar_dollar : isNameChar '$' = false := by
  decide +kernel

theorem segmentsFrom_plain (no_dollar : '$' ∉ text) :
    segmentsFrom .outside (text ++ rest) = text.map .char ++ segmentsFrom .outside rest := by
  induction text with
  | nil => rfl
  | cons c text ih =>
    rw [List.mem_cons, not_or] at no_dollar
    rw [List.cons_append, segmentsFrom, if_neg (Ne.symm no_dollar.1), ih no_dollar.2]
    rfl

theorem segmentsFrom_braces (unclosed : '\x7d' ∉ name) :
    segmentsFrom (.braces read) (name ++ '\x7d' :: rest) =
      .ofName (name.reverse ++ read) :: segmentsFrom .outside rest := by
  induction name generalizing read with
  | nil => simp [segmentsFrom]
  | cons c name ih =>
    rw [List.mem_cons, not_or] at unclosed
    rw [List.cons_append, segmentsFrom, if_neg (Ne.symm unclosed.1), ih unclosed.2]
    simp

/-- Behind a name it goes on as behind any other text. -/
theorem segmentsFrom_word_ended (ended : ∀ c ∈ rest.head?, isNameChar c = false) :
    segmentsFrom (.word read) rest = .ofName read :: segmentsFrom .outside rest := by
  cases rest with
  | nil => rfl
  | cons c rest =>
    have no_name : isNameChar c = false := ended c rfl
    by_cases sign : c = '$' <;> simp [segmentsFrom, no_name, sign, isNameChar_dollar]

theorem segmentsFrom_word (of_name : ∀ c ∈ name, isNameChar c = true)
    (ended : ∀ c ∈ rest.head?, isNameChar c = false) :
    segmentsFrom (.word read) (name ++ rest) =
      .ofName (name.reverse ++ read) :: segmentsFrom .outside rest := by
  induction name generalizing read with
  | nil => exact segmentsFrom_word_ended ended
  | cons c name ih =>
    rw [List.forall_mem_cons] at of_name
    rw [List.cons_append, segmentsFrom, if_pos of_name.1, ih of_name.2]
    simp

theorem segmentsFrom_dollar (alone : ∀ c ∈ rest.head?, c ≠ '\x7b' ∧ isNameChar c = false) :
    segmentsFrom .dollar rest = .char '$' :: segmentsFrom .outside rest := by
  cases rest with
  | nil => rfl
  | cons c rest =>
    obtain ⟨no_brace, no_name⟩ := alone c rfl
    by_cases sign : c = '$' <;> simp [segmentsFrom, no_brace, no_name, sign, isNameChar_dollar]

/-- The parts of a text are read one after another. -/
theorem MadeOf.segmentsFrom_eq {parts : List Part} (h : MadeOf parts text) :
    segmentsFrom .outside text = parts.flatMap Part.segments := by
  induction h with
  | nil => rfl
  | plain no_dollar _ ih => rw [segmentsFrom_plain no_dollar, ih, List.flatMap_cons, Part.segments]
  | @braced name rest parts unclosed _ ih =>
    have opened : segmentsFrom .outside ('$' :: '\x7b' :: name ++ '\x7d' :: rest) =
        segmentsFrom (.braces []) (name ++ '\x7d' :: rest) := by simp [segmentsFrom]
    rw [opened, segmentsFrom_braces unclosed, ih]
    simp [Part.segments, Segment.ofName]
  | @bare name rest parts some_char of_name ended _ ih =>
    obtain ⟨c, name, rfl⟩ := List.exists_cons_of_ne_nil some_char
    rw [List.forall_mem_cons] at of_name
    have no_brace : c ≠ '\x7b' := by
      rintro rfl
      exact absurd of_name.1 (by decide +kernel)
    have begun : segmentsFrom .outside ('$' :: c :: name ++ rest) = segmentsFrom (.word [c]) (name ++ rest) := by
      simp [segmentsFrom, no_brace, of_name.1]
    rw [begun, segmentsFrom_word of_name.2 ended, ih]
    simp [Part.segments, Segment.ofName]
  | dollar alone _ ih =>
    rw [segmentsFrom, if_pos rfl, segmentsFrom_dollar alone, ih]
    rfl

end Reading

/-! ## Texts in which braces are closed -/

/-- The last opening brace behind a dollar sign, if there is one, is closed. -/
def LastBraceCloses (text : List Char) : Prop :=
  ∀ before after, text = before ++ '$' :: '\x7b' :: after → ¬ ['$', '\x7b'] <:+: after → '\x7d' ∈ after

/-- Every opening brace behind a dollar sign is closed. -/
def BracesClose (text : List Char) : Prop :=
  ∀ before after, text = before ++ '$' :: '\x7b' :: after → '\x7d' ∈ after

/-- What closes the last opening brace closes those before it as well. -/
theorem LastBraceCloses.bracesClose {text : List Char} (h : LastBraceCloses text) : BracesClose text := by
  intro before after split
  -- What closes a later brace stands behind this one too.
  by_cases later : ['$', '\x7b'] <:+: after
  · obtain ⟨between, rest, rfl⟩ := later
    have behind : '\x7d' ∈ rest := by
      refine h.bracesClose (before ++ '$' :: '\x7b' :: between) rest ?_
      simpa using split
    exact List.mem_append_right _ behind
  · exact h before after split later
termination_by _ after => after.length

theorem BracesClose.of_append {front text : List Char} (h : BracesClose (front ++ text)) : BracesClose text := by
  rintro before after rfl
  exact h (front ++ before) after (by simp)

/-- A text begins with the longest name that it begins with, which may be empty. -/
theorem exists_name_front (text : List Char) : ∃ name rest, text = name ++ rest ∧
    (∀ c ∈ name, isNameChar c = true) ∧ ∀ c ∈ rest.head?, isNameChar c = false := by
  refine ⟨text.takeWhile isNameChar, text.dropWhile isNameChar, List.takeWhile_append_dropWhile.symm,
    fun _ => List.mem_takeWhile_imp, fun c first => ?_⟩
  have ended := List.head?_dropWhile_not isNameChar text
  rwa [Option.mem_def.1 first] at ended

/-- A text begins with a part. -/
theorem exists_first_part {c : Char} {rest : List Char} (closes : BracesClose (c :: rest)) :
    ∃ part front back, c :: rest = front ++ back ∧ front ≠ [] ∧
      ∀ parts, MadeOf parts back → MadeOf (part :: parts) (c :: rest) := by
  by_cases sign : c = '$'
  · subst sign
    by_cases brace : rest.head? = some '\x7b'
    · obtain ⟨after, rfl⟩ := List.head?_eq_some_iff.1 brace
      obtain ⟨name, back, rfl, unclosed⟩ := List.eq_append_cons_of_mem (closes [] after rfl)
      exact ⟨.braced name, '$' :: '\x7b' :: name ++ ['\x7d'], back, by simp, by simp,
        fun parts more => .braced unclosed more⟩
    · obtain ⟨name, back, rfl, of_name, ended⟩ := exists_name_front rest
      by_cases nameless : name = []
      · subst nameless
        refine ⟨.dollar, ['$'], back, rfl, by simp, fun parts more => .dollar (fun d first => ⟨?_, ended d first⟩) more⟩
        rintro rfl
        exact brace first
      · exact ⟨.bare name, '$' :: name, back, rfl, by simp, fun parts more => .bare nameless of_name ended more⟩
  · exact ⟨.plain [c], [c], rest, rfl, by simp, fun parts more => .plain (by simpa using Ne.symm sign) more⟩

theorem exists_madeOf {text : List Char} (closes : BracesClose text) : ∃ parts, MadeOf parts text := by
  match text, closes with
  | [], _ => exact ⟨[], .nil⟩
  | c :: rest, closes =>
    obtain ⟨part, front, back, split, some_char, made⟩ := exists_first_part closes
    -- A part takes a character at least, so that fewer are left behind it.
    have shorter : back.length < (c :: rest).length := by
      have := List.length_pos_of_ne_nil some_char
      rw [split, List.length_append]
      omega
    obtain ⟨parts, more⟩ := exists_madeOf (split ▸ closes).of_append
    exact ⟨part :: parts, made parts more⟩
termination_by text.length
decreasing_by exact shorter

/-! ## Values of variables -/

/-- The variable that a piece names. -/
def Segment.name? : Segment → Option String
  | char _ => none
  | named name => some name

/-- What stands in the place of a piece. -/
def Segment.text (value : String → Option String) : Segment → String
  | char c => c.toString
  | named name => (value name).getD ""

/-- A text of parts with the values of its variables, or its first variable that has none. -/
def expansion (value : String → Option String) (parts : List Part) : Except String String :=
  match (parts.filterMap Part.name?).find? fun name => (value name).isNone with
  | some name => .error name
  | none => .ok (String.join (parts.map (Part.text value)))

section Values

variable {value : String → Option String}

theorem mapM_expand (pieces : List Segment) : pieces.mapM (·.expand value) =
    match (pieces.filterMap Segment.name?).find? fun name => (value name).isNone with
    | some name => .error name
    | none => .ok (pieces.map (Segment.text value)) := by
  induction pieces with
  | nil => rfl
  | cons piece pieces ih =>
    rw [List.mapM_cons, ih]
    cases piece with
    | char c =>
      rw [List.filterMap_cons_none rfl]
      split <;> rfl
    | named name =>
      have kept : (Segment.named name :: pieces).filterMap Segment.name? = name :: pieces.filterMap Segment.name? :=
        rfl
      rw [kept, List.find?_cons, List.map_cons, Segment.expand, Segment.text]
      cases value name with
      | none => rfl
      | some text => cases (pieces.filterMap Segment.name?).find? fun name => (value name).isNone <;> rfl

theorem join_text_segments (part : Part) :
    String.join (part.segments.map (Segment.text value)) = part.text value := by
  rw [← String.toList_inj, String.toList_join]
  cases part with
  | plain text =>
    rw [Part.text, String.toList_ofList, Part.segments, List.map_map, List.flatMap_map]
    exact (List.flatMap_congr fun c _ => by simp [Segment.text]).trans (List.flatMap_singleton' text)
  | braced name | bare name => simp [Part.segments, Part.text, Segment.text]
  | dollar => simp [Part.segments, Part.text, Segment.text]

theorem filterMap_name?_segments (parts : List Part) :
    (parts.flatMap Part.segments).filterMap Segment.name? = parts.filterMap Part.name? := by
  induction parts with
  | nil => rfl
  | cons part parts ih =>
    rw [List.flatMap_cons, List.filterMap_append, ih]
    cases part with
    | plain text =>
      have no_name : (text.map Segment.char).filterMap Segment.name? = [] := by
        rw [List.filterMap_map]
        exact List.filterMap_eq_nil_iff.2 fun _ _ => rfl
      rw [Part.segments, no_name, List.filterMap_cons_none rfl]
      rfl
    | braced name | bare name | dollar => rfl

theorem join_text_flatMap (parts : List Part) :
    String.join ((parts.flatMap Part.segments).map (Segment.text value)) =
      String.join (parts.map (Part.text value)) := by
  induction parts with
  | nil => rfl
  | cons part parts ih =>
    rw [List.flatMap_cons, List.map_append, String.join_append, ih, join_text_segments, List.map_cons,
      String.join_cons]

theorem MadeOf.expandVariables_eq {text : String} {parts : List Part} (h : MadeOf parts text.toList) :
    expandVariables value text = expansion value parts := by
  rw [expandVariables, Settings.segments, h.segmentsFrom_eq, mapM_expand, filterMap_name?_segments, expansion]
  split
  · rfl
  · exact congrArg Except.ok (join_text_flatMap parts)

end Values

/-- A text that is made of parts is expanded part by part, and so is the path of a catalog. Its plain text, its
lone dollar signs and the values of its variables stand as they are, one behind the other, and of the variables
that have no value the first one is blamed. Every text with its last opening brace closed is made of parts. -/
theorem expansion_by_parts (value : String → Option String) (text : String) :
    (∀ parts, MadeOf parts text.toList → expandVariables value text = expansion value parts ∧
      ∀ c : CatalogSettings, c.path = some text → isBlankText text = false →
        c.filePath value = (expansion value parts).mapError .missingVariable) ∧
    (LastBraceCloses text.toList → ∃ parts, MadeOf parts text.toList) := by
  refine ⟨fun parts made => ⟨made.expandVariables_eq, fun c path seen => ?_⟩,
    fun closes => exists_madeOf closes.bracesClose⟩
  have raw : c.rawPath = .ok text := by
    rw [CatalogSettings.rawPath, path]
    exact if_neg (by rw [seen]; decide)
  rw [CatalogSettings.filePath, raw, ← made.expandVariables_eq]
  rfl

/-- A user's home and a variable with a sign in its name. -/
def homeVariables (name : String) : Option String :=
  if name = "user" then some "$home" else if name = "b$" then some "1" else none

def homeParts : List Part :=
  [.bare ['u', 's', 'e', 'r'], .bare ['u', 's', 'e', 'r'], .plain ['/'], .dollar, .braced ['b', '$'], .plain ['!'],
    .dollar]

/-- Names run up to the next sign or brace, a value with a sign in it stays as it is, and two signs in a row are two
parts. -/
theorem home_expanded :
    MadeOf homeParts "$user$user/$$\x7bb$\x7d!$".toList ∧
      expandVariables homeVariables "$user$user/$$\x7bb$\x7d!$" = .ok "$home$home/$1!$" := by
  have user : ∀ c ∈ ['u', 's', 'e', 'r'], isNameChar c = true :=
    List.all_eq_true.1 (show ['u', 's', 'e', 'r'].all isNameChar = true by decide +kernel)
  have slash : isNameChar '/' = false := by decide +kernel
  have spelled : "$user$user/$$\x7bb$\x7d!$".toList = '$' :: ['u', 's', 'e', 'r'] ++
      ('$' :: ['u', 's', 'e', 'r'] ++ (['/'] ++ '$' :: '$' :: '\x7b' :: ['b', '$'] ++ '\x7d' :: (['!'] ++ ['$']))) := by
    simp
  have made : MadeOf homeParts "$user$user/$$\x7bb$\x7d!$".toList := by
    rw [spelled]
    refine .bare (by simp) user (by simp [isNameChar_dollar]) (.bare (by simp) user (by simp [slash]) ?_)
    exact .plain (by simp) (.dollar (by simp [isNameChar_dollar]) (.braced (by simp) (.plain (by simp) (.dollar (by simp) .nil))))
  have value : expansion homeVariables homeParts = .ok "$home$home/$1!$" := by decide +kernel
  exact ⟨made, ((expansion_by_parts homeVariables _).1 _ made).1.trans value⟩

end Joinery.Settings
