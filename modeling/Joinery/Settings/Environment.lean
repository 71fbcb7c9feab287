import Joinery.Text.Alphabetic

/-!
# Variables in texts

A text names variables of the environment as `$name` or between braces. `expandVariables` puts their
values in place of the names. A value is not read again, so a name in it stays as it is.
-/

namespace Joinery.Settings

open Text

/-- A piece of a text that names variables. -/
inductive Segment
  | char (value : Char)
  | named (name : String)
  deriving DecidableEq

/-- Where in a text the next character stands. -/
inductive Place
  | outside
  /-- Behind a dollar sign. -/
  | dollar
  /-- In a name that began right behind the sign; the characters so far, the last one first. -/
  | word (read : List Char)
  /-- In a name between braces; the characters so far, the last one first. -/
  | braces (read : List Char)
  deriving DecidableEq

/-- A character of a name without braces. -/
def isNameChar (c : Char) : Bool :=
  isAlphanumeric c || c == '_'

def Segment.ofName (read : List Char) : Segment :=
  named (String.ofList read.reverse)

/-- The pieces of a text. A dollar sign that no name follows stands for itself. A name between braces
goes on to the end of the text if nothing closes it. -/
def segmentsFrom : Place → List Char → List Segment
  | .outside, [] => []
  | .outside, c :: rest =>
    if c = '$' then segmentsFrom .dollar rest else .char c :: segmentsFrom .outside rest
  | .dollar, [] => [.char '$']
  | .dollar, c :: rest =>
    if c = '\x7b' then segmentsFrom (.braces []) rest
    else if isNameChar c then segmentsFrom (.word [c]) rest
    else if c = '$' then .char '$' :: segmentsFrom .dollar rest
    else .char '$' :: .char c :: segmentsFrom .outside rest
  | .word read, [] => [.ofName read]
  | .word read, c :: rest =>
    if isNameChar c then segmentsFrom (.word (c :: read)) rest
    else if c = '$' then .ofName read :: segmentsFrom .dollar rest
    else .ofName read :: .char c :: segmentsFrom .outside rest
  | .braces read, [] => [.ofName read]
  | .braces read, c :: rest =>
    if c = '\x7d' then .ofName read :: segmentsFrom .outside rest
    else segmentsFrom (.braces (c :: read)) rest

/-- The pieces of a text. -/
def segments (text : String) : List Segment :=
  segmentsFrom .outside text.toList

/-- The variables that a text names. -/
def variableNames (text : String) : List String :=
  (segments text).filterMap fun
    | .char _ => none
    | .named name => some name

/-- What stands in the place of a piece; the name of a variable without a value. -/
def Segment.expand (value : String → Option String) : Segment → Except String String
  | char c => .ok c.toString
  | named name =>
    match value name with
    | some text => .ok text
    | none => .error name

/-- Puts the values of variables in a text; the name of the first one without a value. -/
def expandVariables (value : String → Option String) (text : String) : Except String String := do
  return String.join (← (segments text).mapM (·.expand value))

end Joinery.Settings
