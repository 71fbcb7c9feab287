/-!
# TOML trees

The tables of a TOML text while it is read. A table may be written in several parts, but only in ways
that do not mix: what a table comes from (`Origin`) decides what can be added to it.
-/

namespace Joinery.Settings

/-- What a table comes from. -/
inductive Origin
  /-- The header of a table inside it. -/
  | implied
  /-- A header of its own. -/
  | headed
  /-- A key with points in it. -/
  | dotted
  /-- Braces; nothing can be added to it. -/
  | closed
  deriving DecidableEq

/-- A value of a TOML text. -/
inductive Toml
  | text (value : String)
  /-- A number or a truth value. -/
  | plain
  /-- A day, a time of a day, or both. -/
  | time
  | array (items : List Toml)
  | table (entries : List (String × Toml)) (origin : Origin)
  /-- Tables that have headers of the same name. -/
  | series (items : List Toml)

namespace Toml

/-- The table of a text in which nothing was read yet. -/
def root : Toml :=
  table [] .headed

/-- Changes the entry under a key, which is there. -/
def replace (key : String) (value : Toml) (entries : List (String × Toml)) : List (String × Toml) :=
  entries.map fun (k, v) => if k = key then (k, value) else (k, v)

/-- Something can be added to a table under further keys. -/
def isOpen (byDots : Bool) (origin : Origin) : Bool :=
  origin ≠ .closed && !(byDots && origin = .headed)

/-- Changes the table at the end of a path. Tables that are missing on the way are made; from a series
the last table is taken. -/
def changeAt (byDots : Bool) (change : Toml → Option Toml) : List String → Toml → Option Toml
  | [], t => change t
  | key :: keys, table entries origin =>
    match entries.lookup key with
    | none => do
      let child ← changeAt byDots change keys (table [] (if byDots then .dotted else .implied))
      return table (entries ++ [(key, child)]) origin
    | some (table inner innerOrigin) =>
      if isOpen byDots innerOrigin then do
        let child ← changeAt byDots change keys (table inner innerOrigin)
        return table (replace key child entries) origin
      else none
    | some (series items) =>
      match items.getLast? with
      | some last => do
        let child ← changeAt byDots change keys last
        return table (replace key (series (items.dropLast ++ [child])) entries) origin
      | none => none
    | some _ => none
  | _ :: _, _ => none

/-- Adds a value to a table under a key with points in it. The last table on the way has to come from
such a key as well, if it is not the table itself. -/
def addValue (path : List String) (key : String) (value : Toml) (t : Toml) : Option Toml :=
  let add : Toml → Option Toml
    | table entries origin =>
      if (origin = .dotted) = path.isEmpty ∨ (entries.lookup key).isSome then none
      else some (table (entries ++ [(key, value)]) origin)
    | _ => none
  changeAt true add path t

/-- Begins a table with a header. -/
def addTable (path : List String) (key : String) (t : Toml) : Option Toml :=
  let add : Toml → Option Toml
    | table entries origin =>
      match entries.lookup key with
      | none => some (table (entries ++ [(key, table [] .headed)]) origin)
      | some (table inner .implied) => some (table (replace key (table inner .headed) entries) origin)
      | some _ => none
    | _ => none
  changeAt false add path t

/-- Begins the next table of a series. -/
def addToSeries (path : List String) (key : String) (t : Toml) : Option Toml :=
  let add : Toml → Option Toml
    | table entries origin =>
      match entries.lookup key with
      | none => some (table (entries ++ [(key, series [table [] .headed])]) origin)
      | some (series items) =>
        some (table (replace key (series (items ++ [table [] .headed])) entries) origin)
      | some _ => none
    | _ => none
  changeAt false add path t

end Toml

end Joinery.Settings
