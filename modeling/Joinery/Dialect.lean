import Joinery.Text.Blank
import Joinery.Text.Lowercase

/-!
# Dialects

The databases a statement can be written for. They share the statements used here and differ in how
an identifier is delimited (`quote`), what an identifier without delimiters stands for (`fold`), and
whether column names differ in case (`sameColumn`).
-/

namespace Joinery

open Text

/-- The database a statement is written for. -/
inductive Dialect
  | postgres
  | duckdb
  | mysql
  | tsql
  deriving DecidableEq, Inhabited

namespace Dialect

/-- The opening and closing delimiter of an identifier. -/
structure Quotes where
  opening : Char
  closing : Char
  deriving DecidableEq

/-- Every dialect, in the order of its declaration. -/
def all : List Dialect :=
  [postgres, duckdb, mysql, tsql]

/-- The name of a dialect in output and settings. -/
def name : Dialect → String
  | postgres => "postgres"
  | duckdb => "duckdb"
  | mysql => "mysql"
  | tsql => "tsql"

def quotes : Dialect → Quotes
  | postgres | duckdb => ⟨'"', '"'⟩
  | mysql => ⟨'\x60', '\x60'⟩
  | tsql => ⟨'[', ']'⟩

/-- One character of a delimited identifier: the closing delimiter is written twice. -/
def quoteChar (d : Dialect) (c : Char) : List Char :=
  if c = d.quotes.closing then [c, c] else [c]

/-- The characters of a delimited identifier. -/
def quoteChars (d : Dialect) (name : List Char) : List Char :=
  d.quotes.opening :: name.flatMap d.quoteChar ++ [d.quotes.closing]

/-- A schema, table, column or alias name between its delimiters. -/
def quote (d : Dialect) (name : String) : String :=
  String.ofList (d.quoteChars name.toList)

/-- Column names that differ only in case are the same name. -/
def ignoresColumnCase : Dialect → Bool
  | postgres => false
  | duckdb | mysql | tsql => true

/-- The name that an identifier without delimiters stands for. -/
def fold (d : Dialect) (name : String) : String :=
  match d with
  | postgres => lowercase name
  | duckdb | mysql | tsql => name

/-- Two names of one column. Case is ignored for `A` to `Z` alone. -/
def sameColumn (d : Dialect) (a b : String) : Bool :=
  if d.ignoresColumnCase then asciiLowercase a == asciiLowercase b else a == b

/-- A name that is none of the known dialects, trimmed and in lower case. -/
structure UnknownName where
  name : String
  deriving DecidableEq

def UnknownName.message (e : UnknownName) : String :=
  "Unknown SQL dialect: '" ++ e.name ++ "' (expected postgres, duckdb, mysql or tsql)"

/-- Reads a dialect's name or one of its other names, in any case and between blanks. -/
def ofName (name : String) : Except UnknownName Dialect :=
  match asciiLowercase (trim name) with
  | "postgres" | "postgresql" | "pg" => .ok postgres
  | "duckdb" | "duck" => .ok duckdb
  | "mysql" => .ok mysql
  | "tsql" | "mssql" | "sqlserver" => .ok tsql
  | other => .error ⟨other⟩

/-- Reads a dialect as settings write it: the exact name, or one of a few others. -/
def ofSetting? : String → Option Dialect
  | "postgres" => some postgres
  | "duckdb" | "duck" => some duckdb
  | "mysql" => some mysql
  | "tsql" | "mssql" | "sqlserver" => some tsql
  | _ => none

end Dialect

end Joinery
