import SqlBinding.Sqlite.Cell

/-!
# SQL statements

The statements that the database understands.
-/

set_option autoImplicit false

namespace SqlBinding.Sqlite

/-- A word in uppercase, by which keywords and names are told apart. -/
def upper (w : String) : String := String.ofList (w.toList.map Char.toUpper)

/-- Whether two names are the same, in any ASCII case. -/
def sameName (a b : String) : Bool := upper a == upper b

/-- A column as it is declared. -/
structure ColumnDef where
  name : String
  declaredType : String
  primaryKey : Bool := false
  notNull : Bool := false
  default : Cell := .null
  deriving DecidableEq, Repr

namespace ColumnDef

/-- The affinity of a column. -/
def affinity (c : ColumnDef) : Affinity := .ofDeclared c.declaredType

/-- Whether a column holds the ids of the rows. -/
def isId (c : ColumnDef) : Bool := c.primaryKey && upper c.declaredType == "INTEGER"

end ColumnDef

/-- The rows that a statement is about: those whose column equals one of several values. -/
structure Filter where
  column : String
  values : List Cell
  deriving DecidableEq, Repr

/-- A column that a statement returns, and the name it is given. -/
structure Selected where
  column : String
  name : Option String
  deriving DecidableEq, Repr

/-- What a statement returns of the rows it is about. -/
inductive Selection
  | all
  | columns (cs : List Selected)
  /-- Their number, under a name. -/
  | count (name : String)
  deriving DecidableEq, Repr

/-- A statement. -/
inductive Statement
  | createTable (table : String) (columns : List ColumnDef)
  /-- Inserts rows of values for the named columns, or for all. -/
  | insert (table : String) (columns : Option (List String)) (rows : List (List Cell))
      (returning : Option Selection)
  | update (table : String) (assignments : List (String × Cell)) (filter : Option Filter)
      (returning : Option Selection)
  | delete (table : String) (filter : Option Filter) (returning : Option Selection)
  | select (selection : Selection) (table : String) (filter : Option Filter)
      (order : Option String)
  /-- One row of values under names. -/
  | constants (values : List (Cell × String))
  deriving DecidableEq, Repr

end SqlBinding.Sqlite
