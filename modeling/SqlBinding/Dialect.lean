import SqlBinding.Text.Hex

/-!
# SQL dialects

Where the supported servers differ: how they read string literals, what stands for truth values and
byte strings, which operations they have, and when a value with a validity flag counts as present.
-/

set_option autoImplicit false

namespace SqlBinding

open Text

/-- The SQL dialects. -/
inductive Dialect
  /-- Double-quoted literals with backslash escapes. -/
  | legacy
  | mySql
  | postgres
  | sqlite
  deriving DecidableEq, Repr

/-- When a value with a validity flag is written out rather than as `NULL`. -/
inductive NullablePolicy
  /-- When the flag is set. -/
  | strict
  /-- When the flag is set, or the value is neither a truth value nor zero. -/
  | validOrNonZero
  deriving DecidableEq, Repr

namespace Dialect

/-- The name of a dialect. -/
def name : Dialect → String
  | legacy => "legacy"
  | mySql => "mysql"
  | postgres => "postgres"
  | sqlite => "sqlite"

/-- The name of a dialect in descriptions. -/
def title : Dialect → String
  | legacy => "Legacy"
  | mySql => "MySql"
  | postgres => "Postgres"
  | sqlite => "Sqlite"

/-- The dialect that is used unless another one is asked for. -/
def default : Dialect := mySql

instance : Inhabited Dialect := ⟨default⟩

/-- The dialect of a driver, whose name is given in lowercase. -/
def ofDriverName? : String → Option Dialect
  | "mysql" => some mySql
  | "postgres" | "postgresql" | "pgx" => some postgres
  | "sqlite" | "sqlite3" => some sqlite
  | "legacy" => some legacy
  | _ => none

/-- A backslash in front of every character that satisfies `p`. -/
def escaped (p : Char → Bool) (cs : List Char) : List Char :=
  cs.flatMap fun c => if p c then ['\\', c] else [c]

/-- Every single quote twice. -/
def doubled (cs : List Char) : List Char :=
  cs.flatMap fun c => if c = '\'' then ['\'', '\''] else [c]

/-- How MySQL spells a character of a literal. -/
def mySqlEscape (c : Char) : List Char :=
  if c = '\x00' then ['\\', '0']
  else if c = '\n' then ['\\', 'n']
  else if c = '\r' then ['\\', 'r']
  else if c = '\x1a' then ['\\', 'Z']
  else if c = '\'' ∨ c = '"' ∨ c = '\\' then ['\\', c]
  else [c]

/-- A text as a string literal. -/
def quote (d : Dialect) (cs : List Char) : List Char :=
  match d with
  | legacy => '"' :: escaped (fun c => c == '"' || c == '\\') cs ++ ['"']
  | mySql => '\'' :: cs.flatMap mySqlEscape ++ ['\'']
  | postgres =>
    if cs.contains '\\' then
      'E' :: '\'' :: escaped (· == '\\') (doubled cs) ++ ['\'']
    else '\'' :: doubled cs ++ ['\'']
  | sqlite => '\'' :: doubled cs ++ ['\'']

/-- The literal of a truth value. -/
def boolLiteral : Dialect → Bool → List Char
  | postgres, b => if b then ['\'', 't', '\''] else ['\'', 'f', '\'']
  | _, b => if b then ['1'] else ['0']

/-- The literal of a byte string. -/
def bytesLiteral : Dialect → List UInt8 → List Char
  | postgres, bytes => '\'' :: '\\' :: 'x' :: Hex.encode bytes ++ ['\'']
  | _, bytes => 'X' :: '\'' :: Hex.encode bytes ++ ['\'']

/-- Whether statements may ask for columns of the rows they change. -/
def supportsReturning : Dialect → Bool
  | postgres | sqlite => true
  | legacy | mySql => false

/-- Whether drivers report the id of the last row inserted. -/
def supportsLastInsertId : Dialect → Bool
  | postgres => false
  | legacy | mySql | sqlite => true

/-- When a value with a validity flag counts as present. -/
def nullablePolicy : Dialect → NullablePolicy
  | mySql => .validOrNonZero
  | legacy | postgres | sqlite => .strict

end Dialect

end SqlBinding
