import SqlBinding.Argument.Basic
import SqlBinding.Column.Value
import SqlBinding.Dialect

/-!
# Errors

Why a statement cannot be built or a result cannot be bound, as causes; `message` gives the wording
of each.
-/

set_option autoImplicit false

namespace SqlBinding

open Text

/-- Why a column value cannot be stored in its destination. -/
inductive ScanError
  /-- NULL reached a destination that cannot hold it. -/
  | unexpectedNull (target : String)
  /-- Values of this kind have no conversion to the destination. -/
  | unsupported (source : ColumnValue.Kind) (target : String)
  /-- The value does not fit the destination. -/
  | outOfRange (value : List Char) (target : String)
  /-- The text does not spell a value of the destination. -/
  | parse (text : String) (target : String)
  /-- The path does not lead to a field of the destination. -/
  | fieldPath (path : List Nat)
  /-- The text of an array is malformed, or reading a point in time stopped the program. -/
  | array (cause : ArrayError)
  deriving DecidableEq, Repr

/-- Numbers in brackets. -/
def bracketed (ns : List Nat) : String :=
  "[" ++ ", ".intercalate (ns.map toString) ++ "]"

/-- The wording of a scan error. -/
def ScanError.message : ScanError → String
  | unexpectedNull target => "converting NULL to " ++ target ++ " is unsupported"
  | unsupported source target => "unsupported scan, storing " ++ source.name ++ " into " ++ target
  | outOfRange value target => "value " ++ String.ofList value ++ " out of range for " ++ target
  | parse text target => "parsing " ++ String.ofList (quoted text.toList) ++ " as " ++ target
  | fieldPath path => "no destination field at path " ++ bracketed path
  | array cause => cause.message

/-- Why an argument has no literal. -/
inductive ArgumentFault
  | nonFinite (shown : List Char)
  | insideList (kind : Argument.Kind)
  | mixedList (first other : Argument.Kind)
  deriving DecidableEq, Repr

/-- The wording of an argument fault. -/
def ArgumentFault.message : ArgumentFault → String
  | nonFinite shown => "non-finite float " ++ String.ofList shown
  | insideList kind => kind.name ++ " inside a list argument"
  | mixedList first other => "list mixes " ++ first.name ++ " and " ++ other.name ++ " elements"

/-- Why a template is no template of a batch. -/
inductive BatchFault
  | noGroup
  | severalGroups
  deriving DecidableEq, Repr

/-- The wording of a batch fault. -/
def BatchFault.message : BatchFault → String
  | noGroup => "no (?, ...) value group in statement"
  | severalGroups => "more than one (?, ...) value group in statement"

/-- Why a destination cannot receive a row. -/
inductive ContainerFault
  /-- A scalar destination met other than one column. -/
  | scalarColumns (count : Nat)
  /-- A scalar destination met a row without values. -/
  | emptyRow
  /-- A row has another number of values than there are columns. -/
  | rowWidth (values columns : Nat)
  /-- A record was planned as something else. -/
  | noFieldPlan
  /-- A map was planned as something else. -/
  | noColumnTypes
  /-- A row was asked for where the cursor has none. -/
  | noCurrentRow
  deriving DecidableEq, Repr

/-- The wording of a container fault. -/
def ContainerFault.message : ContainerFault → String
  | scalarColumns count =>
    "scalar destination needs exactly one column, got " ++ toString count
  | emptyRow => "scalar destination got an empty row"
  | rowWidth values columns =>
    "row has " ++ toString values ++ " values for " ++ toString columns ++ " columns"
  | noFieldPlan => "record destination used without a field plan"
  | noColumnTypes => "map destination used without column types"
  | noCurrentRow => "scan called without a current row"

/-- The operations that not every dialect or driver has. -/
inductive Operation
  | returning
  | lastInsertId
  | rowsAffected
  | driverReport
  deriving DecidableEq, Repr

/-- The name by which messages call an operation. -/
def Operation.name : Operation → String
  | returning => "RETURNING"
  | lastInsertId => "last insert id"
  | rowsAffected => "rows affected"
  | driverReport => "driver report"

/-- Why a configuration is of no use. -/
inductive ConfigFault
  | unknownDriver (name : String)
  | otherAdapter (name : String)
  /-- The file cannot be read, for the reason given. -/
  | unreadable (path reason : String)
  | malformed
  deriving DecidableEq, Repr

/-- The wording of a configuration fault. -/
def ConfigFault.message : ConfigFault → String
  | unknownDriver name => "unknown driver name \x60" ++ name ++ "\x60"
  | otherAdapter name => "driver \x60" ++ name ++ "\x60 is not handled by the SQLite adapter"
  | unreadable path reason => "reading " ++ path ++ ": " ++ reason
  | malformed => "malformed JSON"

/-- Why a call fails. -/
inductive Error
  /-- The template has another number of placeholders than there are arguments. -/
  | statementFormat (placeholders arguments : Nat)
  /-- An argument has no literal. -/
  | argumentType (fault : ArgumentFault)
  /-- The template of a batch has not exactly one value group. -/
  | statementSyntax (fault : BatchFault)
  /-- The destination cannot receive the row. -/
  | invalidContainer (fault : ContainerFault)
  /-- A column belongs to no field of the destination. -/
  | fieldsMatch (column : String)
  /-- A query for one row returned none. -/
  | emptyResult
  /-- A query for one row returned several. -/
  | multipleResults
  /-- A list argument, or a list of rows, is empty. -/
  | emptyArrayArgument
  /-- The dialect or its driver has no such operation. -/
  | unsupportedByDialect (operation : Operation) (dialect : Dialect)
  /-- A column value cannot be stored in its destination. -/
  | scan (column : String) (cause : ScanError)
  /-- An array has no text. -/
  | array (cause : ArrayError)
  /-- The database failed. -/
  | driver (text : String)
  /-- One of several statements failed. -/
  | execMany (statement : String) (cause : Error)
  /-- The cursor failed to close after all rows had been bound. -/
  | cursorLeak (cause : Error)
  /-- The configuration is of no use. -/
  | config (fault : ConfigFault)
  deriving DecidableEq, Repr

/-- The wording of an error. -/
def Error.message : Error → String
  | statementFormat placeholders arguments =>
    "query can't be formatted: " ++ toString placeholders ++ " placeholders for " ++
      toString arguments ++ " arguments"
  | argumentType fault => "invalid variable type for argument: " ++ fault.message
  | statementSyntax fault => "sql statement syntax error: " ++ fault.message
  | invalidContainer fault => "invalid container for scanning: " ++ fault.message
  | fieldsMatch column =>
    "queried fields not match with struct fields: column \x60" ++ column ++ "\x60 not exist"
  | emptyResult => "no result for get query"
  | multipleResults => "get more than one results for get query"
  | emptyArrayArgument => "has empty array in query arguments"
  | unsupportedByDialect operation dialect =>
    operation.name ++ " is not supported for the " ++ dialect.name ++ " dialect"
  | scan column cause => "scanning column \x60" ++ column ++ "\x60: " ++ cause.message
  | array cause => "array codec: " ++ cause.message
  | driver text => "database error: " ++ text
  | execMany statement cause => "query: " ++ statement ++ "; error: " ++ cause.message
  | cursorLeak cause => "row cursor leaked, close failed after binding: " ++ cause.message
  | config fault => "configuration error: " ++ fault.message

/-- The dialect of a driver, whose name is taken in any ASCII case. -/
def Dialect.ofDriver (driver : String) : Except Error Dialect :=
  let name := String.ofList (driver.toList.map Char.toLower)
  match ofDriverName? name with
  | some d => .ok d
  | none => .error (.config (.unknownDriver name))

end SqlBinding
