import SqlBinding.Column.Family
import SqlBinding.Record.Write

/-!
# Binding a row to a destination

A destination is what one result row becomes: a scalar, a record, or a map from column names to
values. It is planned once from the columns of a result set; the plan then binds every row. A plan
made for a destination of one kind refuses a destination of another.
-/

set_option autoImplicit false

namespace SqlBinding

/-- What a result row is bound to. -/
inductive Destination
  | scalar (s : Scalar)
  | record (fields : Record.Fields)
  /-- A record behind a pointer. -/
  | boxed (fields : Record.Fields)
  /-- A map from column names to column values. -/
  | map

/-- The kinds of destinations. -/
inductive Shape
  | scalar
  | record
  | boxedRecord
  | map
  deriving DecidableEq, Repr

/-- How the values of a row are put to use. -/
inductive PlanTarget
  /-- The only value is scanned. -/
  | single
  /-- Every value goes to the field at its path. -/
  | fields (paths : List Record.Path)
  /-- Every value is read by the family of its column. -/
  | typed (types : List ColumnType)
  deriving DecidableEq, Repr

/-- A plan for the rows of one result set. -/
structure RowPlan where
  columns : List String
  target : PlanTarget
  deriving DecidableEq, Repr

namespace RowPlan

/-- The plan of a scalar destination, which takes one column; a result set without rows may have
none. -/
def forScalar (columns : List String) : Except Error RowPlan :=
  if columns.length ≤ 1 then .ok ⟨columns, .single⟩
  else .error (.invalidContainer (.scalarColumns columns.length))

/-- The plan of a record destination, which must have a field for every column. -/
def forRecord (fs : Record.Fields) (columns : List String) : Except Error RowPlan :=
  (Record.mapColumns fs.table columns).map fun paths => ⟨columns, .fields paths⟩

/-- The plan of a map. Columns of which nothing is known are left as they are. -/
def forMap (columns : List String) (types : List ColumnType) : RowPlan :=
  if types.length = columns.length then ⟨columns, .typed types⟩
  else ⟨columns, .typed (columns.map fun name => ⟨name, "", none⟩)⟩

/-- Holds a row to the number of columns. -/
def checkWidth (plan : RowPlan) (values : List ColumnValue) : Except Error Unit :=
  if values.length = plan.columns.length then .ok ()
  else .error (.invalidContainer (.rowWidth values.length plan.columns.length))

/-- The error of scanning the value with the given index. -/
def scanError (plan : RowPlan) (index : Nat) (cause : ScanError) : Error :=
  .scan (plan.columns[index]?.getD "") cause

/-- Binds a row to a scalar: its first value is scanned. -/
def bindScalar (plan : RowPlan) (s : Scalar) (values : List ColumnValue) : Except Error s.Val :=
  match values with
  | [] => .error (.invalidContainer .emptyRow)
  | v :: _ => (s.ofColumn v).mapError (plan.scanError 0)

/-- Writes values, the first of which has the given index, to their paths one after the other; the
first failing write decides. -/
def writeFields (plan : RowPlan) (fs : Record.Fields) :
    Nat → fs.Val → List (Record.Path × ColumnValue) → Except Error fs.Val
  | _, r, [] => .ok r
  | index, r, (path, v) :: rest =>
    match fs.scanField r path v with
    | (r', .ok ()) => writeFields plan fs (index + 1) r' rest
    | (_, .error e) => .error (plan.scanError index e)

/-- Binds a row to a record, which starts out with its defaults. -/
def bindRecord (plan : RowPlan) (fs : Record.Fields) (values : List ColumnValue) :
    Except Error fs.Val :=
  match plan.target with
  | .fields paths =>
    match plan.checkWidth values with
    | .error e => .error e
    | .ok () => plan.writeFields fs 0 fs.default (paths.zip values)
  | _ => .error (.invalidContainer .noFieldPlan)

/-- Reads values, the first of which has the given index, by the families of their columns and puts
them under the names of the columns; the first value that cannot be read decides. -/
def readValues (plan : RowPlan) :
    Nat → NameMap ColumnValue → List (ColumnType × ColumnValue) → Except Error (NameMap ColumnValue)
  | _, row, [] => .ok row
  | index, row, (column, v) :: rest =>
    match column.family.read v column.nullable with
    | .error e => .error (plan.scanError index e)
    | .ok value =>
      readValues plan (index + 1) (row.insert (plan.columns[index]?.getD "") value) rest

/-- Binds a row to a map. -/
def bindMap (plan : RowPlan) (values : List ColumnValue) : Except Error (NameMap ColumnValue) :=
  match plan.target with
  | .typed types =>
    match plan.checkWidth values with
    | .error e => .error e
    | .ok () => plan.readValues 0 .empty (types.zip values)
  | _ => .error (.invalidContainer .noColumnTypes)

end RowPlan

namespace Destination

/-- What a row becomes. -/
@[reducible] def Val : Destination → Type
  | scalar s => s.Val
  | record fs => fs.Val
  | boxed fs => fs.Val
  | map => NameMap ColumnValue

/-- The kind of a destination. -/
def shape : Destination → Shape
  | scalar _ => .scalar
  | record _ => .record
  | boxed _ => .boxedRecord
  | map => .map

/-- Plans a destination for a result set. -/
def plan (d : Destination) (columns : List String) (types : List ColumnType) :
    Except Error RowPlan :=
  match d with
  | scalar _ => RowPlan.forScalar columns
  | record fs | boxed fs => RowPlan.forRecord fs columns
  | map => .ok (.forMap columns types)

/-- Binds a row. -/
def bind (plan : RowPlan) (values : List ColumnValue) : (d : Destination) → Except Error d.Val
  | scalar s => plan.bindScalar s values
  | record fs => plan.bindRecord fs values
  | boxed fs => plan.bindRecord fs values
  | map => plan.bindMap values

end Destination

end SqlBinding
