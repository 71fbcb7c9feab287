import Joinery.Filter.Grammar.Basic

/-!
# Names of types

`typeName` reads the name of a type with its arguments. Names that no dialect knows are read as types
of the user's own.
-/

namespace Joinery.Filter.Grammar

/-- What kind of type a name stands for. -/
inductive TypeKind
  | known
  | interval
  | own
  deriving DecidableEq

/-- A type that was read. Of two closing angle brackets that were read as one lexeme the second may
still belong to the type around it. -/
structure TypeRead where
  kind : TypeKind := .known
  spareBracket : Bool := false

/-- What a rule reads between parentheses, if there are any. -/
def optionalParens (rule : Read Unit) : Read Unit := do
  let _ ← whenever (symbol? "(") do
    rule
    symbol ")"

/-- The number of digits or characters of a type, in parentheses. -/
def optionalSize : Read Unit :=
  optionalParens wholeNumber

/-- One number, or two with a comma between them, in parentheses. -/
def optionalSizes : Read Unit :=
  optionalParens do
    wholeNumber
    let _ ← whenever (symbol? ",") wholeNumber

/-- The number of characters of a type, and in what they are counted. -/
def optionalLength : Read Unit :=
  optionalParens do
    if ← word? "MAX" then return ()
    else do
      wholeNumber
      let _ ← oneOf? ["CHARACTERS", "OCTETS"]

/-- Whether a type of time knows the zone. -/
def optionalZone : Read Unit := do
  match ← oneOf? ["WITH", "WITHOUT"] with
  | some _ => words ["TIME", "ZONE"]
  | none => return ()

/-- Types that are a word alone. -/
def bareTypes : List String :=
  ["BOOLEAN", "BOOL", "REAL", "FLOAT4", "FLOAT32", "FLOAT64", "FLOAT8", "INT16", "INT32", "INT64",
   "INT128", "INT256", "UINT8", "UINT16", "UINT32", "UINT64", "UINT128", "UINT256", "UUID", "DATE",
   "DATE32", "TINYBLOB", "MEDIUMBLOB", "LONGBLOB", "JSON", "JSONB", "REGCLASS", "TEXT", "TINYTEXT",
   "MEDIUMTEXT", "LONGTEXT", "BYTEA", "TRIGGER"]

/-- Types that can have a size. -/
def sizedTypes : List String :=
  ["FLOAT", "CLOB", "BINARY", "VARBINARY", "BLOB", "BYTES", "DATETIME", "STRING", "TIMESTAMPTZ",
   "TIMETZ"]

/-- Types of whole numbers, which can have a size and go without a sign. -/
def integerTypes : List String :=
  ["TINYINT", "INT2", "SMALLINT", "MEDIUMINT", "INT", "INT4", "INT8", "INTEGER", "BIGINT"]

/-- Types of decimal numbers. -/
def decimalTypes : List String :=
  ["NUMERIC", "DECIMAL", "DEC", "BIGNUMERIC", "BIGDECIMAL"]

/-- The argument of a type of the user's own: words, numbers and texts. -/
def ownArguments : Nat → Read Unit
  | 0 => refuse
  | bound + 1 => do
    match ← next with
    | some (.symbol ")") => return ()
    | some (.symbol ",") | some (.word ..) | some (.number ..) | some (.text .single _) =>
      ownArguments bound
    | _ => refuse

/-- A closing angle bracket, unless it was read already. -/
def closeAngle (spare : Bool) : Read Bool := do
  if spare then return false
  else if ← symbol? ">" then return false
  else do
    symbol ">>"
    return true

/-- The types of fields between parentheses. -/
def fields (d : Dialect) (type : Read TypeRead) : Read Unit := do
  let _ ← inParens (items d do
    let _ ← name
    if (← type).spareBracket then refuse else return ())

/-- A type up to the brackets that make it a list of it. -/
def typeBase (d : Dialect) (inner : Read TypeRead) : Read TypeRead := do
  let key ← peekKey
  match ← next with
  | some (.word ..) =>
    if bareTypes.contains key then return {}
    else if sizedTypes.contains key then do
      optionalSize
      return {}
    else if integerTypes.contains key then do
      optionalSize
      let _ ← word? "UNSIGNED"
      return {}
    else if decimalTypes.contains key then do
      optionalSizes
      return {}
    else
      match key with
      | "DOUBLE" => do
        let _ ← word? "PRECISION"
        return {}
      | "BIT" => do
        let _ ← word? "VARYING"
        optionalSize
        return {}
      | "CHARACTER" | "CHAR" => do
        if ← word? "VARYING" then optionalLength
        else if ← words? ["LARGE", "OBJECT"] then optionalSize
        else optionalLength
        return {}
      | "VARCHAR" | "NVARCHAR" => do
        optionalLength
        return {}
      | "TIMESTAMP" | "TIME" => do
        optionalSize
        optionalZone
        return {}
      | "DATETIME64" => do
        inParens do
          wholeNumber
          let _ ← whenever (symbol? ",") (textLiteral d)
        return {}
      | "FIXEDSTRING" => do
        inParens wholeNumber
        return {}
      | "INTERVAL" => return { kind := .interval }
      | "ENUM" | "ENUM8" | "ENUM16" => do
        let _ ← inParens (items d do
          textLiteral d
          let _ ← whenever (symbol? "=") (value d))
        return {}
      | "SET" => do
        let _ ← inParens (items .postgres do
          match ← next with
          | some (.text .single _) => return ()
          | _ => refuse)
        return {}
      | "ARRAY" => do
        symbol "<"
        let element ← inner
        return { spareBracket := ← closeAngle element.spareBracket }
      | "STRUCT" | "UNION" =>
        if d = .duckdb then do
          fields d inner
          return {}
        else own
      | _ => own
  | _ => refuse
where
  own : Read TypeRead := do
    let _ ← repeated (symbol? ".") name
    let _ ← whenever (symbol? "(") (withBound ownArguments)
    return { kind := .own }

/-- A type, inside which others may stand as deep as given. -/
def typeWithin (d : Dialect) : Nat → Read TypeRead
  | 0 => refuse
  | bound + 1 => do
    let base ← typeBase d (typeWithin d bound)
    let brackets ← repeated (symbol? "[") do
      if d = .postgres ∨ d = .duckdb then
        let _ ← attempt wholeNumber
      symbol "]"
    if brackets.isEmpty then return base else return { base with kind := .known }

/-- The name of a type. -/
def typeName (d : Dialect) : Read TypeKind := do
  let type ← withBound (typeWithin d)
  if type.spareBracket then refuse else return type.kind

end Joinery.Filter.Grammar
