import SqlBinding.Column.Scan

/-!
# Families of column types

A map has no types of its own: how a value of it is read depends on the family of the column's
declared type. Reading brings a value into the one form of its family; columns of no known family
are left as they are.
-/

set_option autoImplicit false

namespace SqlBinding

open Text

/-- The families of column types. -/
inductive TypeFamily
  | integer
  | float
  | bool
  | text
  | time
  | raw
  deriving DecidableEq, Repr

namespace TypeFamily

/-- The name by which messages call a family. -/
def name : TypeFamily → String
  | integer => "integer"
  | float => "float"
  | bool => "bool"
  | text => "text"
  | time => "time"
  | raw => "raw"

/-- The declared types of every family but the last. -/
def declared : TypeFamily → List String
  | integer => ["TINYINT", "SMALLINT", "MEDIUMINT", "INT", "INTEGER", "BIGINT", "INT2", "INT4",
      "INT8", "SERIAL", "BIGSERIAL", "SMALLSERIAL"]
  | float => ["FLOAT", "DOUBLE", "DOUBLE PRECISION", "REAL", "DECIMAL", "NUMERIC", "FLOAT4",
      "FLOAT8"]
  | bool => ["BOOL", "BOOLEAN"]
  | text => ["CHAR", "VARCHAR", "TINYTEXT", "TEXT", "MEDIUMTEXT", "LONGTEXT", "BPCHAR",
      "CHARACTER", "CHARACTER VARYING", "NAME", "CLOB"]
  | time => ["DATE", "TIME", "YEAR", "DATETIME", "TIMESTAMP", "TIMESTAMPTZ"]
  | raw => []

/-- The mark of integer types without negative numbers. -/
def unsignedMark : List Char := " UNSIGNED".toList

/-- A text without `tail` at its end. -/
def withoutEnd (tail cs : List Char) : List Char :=
  if cs.drop (cs.length - tail.length) = tail then cs.take (cs.length - tail.length) else cs

/-- A declared type in uppercase, without a length and without the unsigned mark behind it. -/
def baseType (declaredType : String) : String :=
  let upper := (trim declaredType.toList).map Char.toUpper
  String.ofList (withoutEnd unsignedMark (trim (upper.takeWhile (· != '('))))

/-- The family of a declared type. -/
def ofDatabaseType (declaredType : String) : TypeFamily :=
  let base := baseType declaredType
  ([integer, float, bool, text, time].find? fun family => family.declared.contains base).getD raw

/-- Brings a value into the form of a family. NULL is kept, unless the column is declared without
NULL and belongs to a known family. -/
def read (family : TypeFamily) (v : ColumnValue) (nullable : Option Bool) :
    Except ScanError ColumnValue :=
  if v.isNull then
    if nullable = some false ∧ family ≠ raw then .error (.unexpectedNull family.name)
    else .ok .null
  else match family with
    | integer => (v.toInteger .i64).map .int
    | float => v.toDouble.map .float
    | bool => v.toBool.map .bool
    | text => v.toText.map .text
    | time => v.toTimestamp.map .timestamp
    | raw => .ok v

end TypeFamily

/-- The family of a column. -/
def ColumnType.family (c : ColumnType) : TypeFamily := .ofDatabaseType c.databaseType

end SqlBinding
