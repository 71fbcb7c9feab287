import Joinery.Json.Document
import Joinery.Text.Quoted

/-!
# Reading values from documents

A `Reader` takes a value from a document or says why there is none, the first reason in the order of
the text. `Record.read` reads records: objects with named members, or lists of the same values in the
order of the fields. Members with other names are passed over.
-/

namespace Joinery.Json

/-- Why a document does not hold a value. -/
inductive ReadError
  | broken (fault : Fault)
  | wrongType (found expected : String)
  | wrongLength (length : Nat) (expected : String)
  | missingField (field : String)
  | repeatedField (field : String)
  /-- None of several ways to write a value fits. -/
  | noVariant (type : String)
  deriving DecidableEq

def Fault.message : Fault → String
  | early => "the text ends too early"
  | malformed => "the text is malformed"

/-- What is said about a document that does not hold a value. -/
def ReadError.message : ReadError → String
  | broken fault => fault.message
  | wrongType found expected => s!"invalid type: {found}, expected {expected}"
  | wrongLength length expected => s!"invalid length {length}, expected {expected}"
  | missingField field => "missing field \x60" ++ field ++ "\x60"
  | repeatedField field => "duplicate field \x60" ++ field ++ "\x60"
  | noVariant type => "data did not match any variant of untagged enum " ++ type

/-- Takes a value from a document. -/
abbrev Reader (α : Type) := Document → Except ReadError α

/-- A value as it is named in a message. -/
def Scalar.shown : Scalar → String
  | null => "null"
  | bool value => "boolean \x60" ++ toString value ++ "\x60"
  | integer value => "integer \x60" ++ toString value ++ "\x60"
  | float negative size =>
    "floating point \x60" ++ (if negative then "-" else "") ++ size.shown ++ "\x60"
  | text value => "string " ++ Text.quoted value

/-- The kind of a document as it is named in a message. -/
def Document.kind : Document → Except Fault String
  | scalar value _ => value.map Scalar.shown
  | arr _ _ => .ok "sequence"
  | obj _ _ => .ok "map"

/-- Something that can be wrong with a text is a reason not to read on. -/
def proceed : Option Fault → Except ReadError Unit
  | none => .ok ()
  | some f => .error (.broken f)

/-- The document holds another kind of value than the expected one. -/
def mismatch {α : Type} (expected : String) (d : Document) : Except ReadError α :=
  match d.kind with
  | .ok found => .error (.wrongType found expected)
  | .error f => .error (.broken f)

/-- Passes over a document. -/
def pass : Reader Unit :=
  fun d => proceed d.stop

/-- Reads a text. -/
def text : Reader String
  | .scalar (.ok (.text value)) _ => .ok value
  | d => mismatch "a string" d

/-- Reads null as nothing, and anything else by another reader. -/
def optional {α : Type} (read : Reader α) : Reader (Option α)
  | .scalar (.ok .null) _ => .ok none
  | d => (read d).map some

/-- Reads a list. -/
def list {α : Type} (read : Reader α) : Reader (List α)
  | .arr items stop => do
    let values ← items.mapM read
    proceed stop
    return values
  | d => mismatch "a sequence" d

/-! ## Records -/

/-- A field of a record that is read into a state. -/
structure Field (σ : Type) where
  name : String
  /-- Further names of the same field. -/
  aliases : List String := []
  /-- The field was read before. -/
  isRead : σ → Bool
  read : Document → σ → Except ReadError σ

/-- A field has a name. -/
def Field.isNamed {σ : Type} (f : Field σ) (name : String) : Bool :=
  f.name == name || f.aliases.contains name

/-- How a record is read: field by field into a state, which has to be complete in the end. -/
structure Record (σ α : Type) where
  name : String
  fields : List (Field σ)
  empty : σ
  /-- The record, or the name of the first field that is missing. -/
  complete : σ → Except String α

namespace Record

variable {σ α : Type}

/-- Reads the members of an object in turn. A field may come up once. -/
def readMembers (fields : List (Field σ)) :
    List (Except Fault String × Document) → σ → Except ReadError σ
  | [], state => .ok state
  | (key, value) :: rest, state => do
    let key ← key.mapError .broken
    match fields.find? (·.isNamed key) with
    | some field =>
      if field.isRead state then .error (.repeatedField field.name)
      else readMembers fields rest (← field.read value state)
    | none => do
      pass value
      readMembers fields rest state

/-- Reads the items of a list into the fields in their order. There cannot be more items than
fields. -/
def readItems : List (Field σ) → List Document → σ → Except ReadError σ
  | _, [], state => .ok state
  | [], _ :: _, _ => .error (.broken .malformed)
  | field :: fields, item :: items, state => do
    readItems fields items (← field.read item state)

/-- Reads a record. -/
def read (r : Record σ α) : Reader α
  | .obj members stop => do
    let state ← readMembers r.fields members r.empty
    proceed stop
    (r.complete state).mapError .missingField
  | .arr items stop => do
    let state ← readItems r.fields items r.empty
    proceed stop
    (r.complete state).mapError fun _ =>
      .wrongLength items.length s!"struct {r.name} with {r.fields.length} elements"
  | d => mismatch ("struct " ++ r.name) d

end Record

/-! ## Values of any kind -/

/-- What is wrong with a document for a reader that asks for everything in it, where lists and objects
may nest so many levels deep. -/
def faultWithin : (levels : Nat) → Document → Option Fault
  | _, .scalar (.ok _) _ => none
  | _, .scalar (.error f) _ => some f
  | 0, _ => some .malformed
  | levels + 1, .arr items stop => items.findSome? (faultWithin levels) <|> stop
  | levels + 1, .obj members stop =>
    members.findSome? (fun (key, value) =>
      match key with
      | .error f => some f
      | .ok _ => faultWithin levels value) <|> stop

/-- How deep lists and objects may nest in a text, for a reader that asks for everything. -/
def maxLevels : Nat := 127

/-! ## Whole texts -/

/-- Reads a value from a text, behind which nothing but spaces may stand. -/
def ofText {α : Type} (read : Reader α) (text : String) : Except ReadError α := do
  let (document, rest) := scan text.toList
  let value ← read document
  if (dropSpace rest).isEmpty then return value else throw (.broken .malformed)

end Joinery.Json
