import SqlBinding.Error
import SqlBinding.Json.Printer

/-!
# Connection options

Which database to open and how. Options are read from a JSON object by the names of their fields, or
from a list in the order of the fields; what is not given has its default, a field given twice is
refused, and members of other names are passed over, whatever they hold.
-/

set_option autoImplicit false

namespace SqlBinding

open Numeric

/-- Options for opening a database. Zero leaves a limit to the driver, and a lifetime unlimited. -/
structure Options where
  dsn : String := ""
  driver : String := ""
  maxIdle : U32 := IntKind.zero .u32
  maxOpen : U32 := IntKind.zero .u32
  /-- In seconds. -/
  maxLifetime : U64 := IntKind.zero .u64
  deriving DecidableEq, Repr

namespace Options

/-- The fields of options. -/
inductive Field
  | dsn
  | driver
  | maxIdle
  | maxOpen
  | maxLifetime
  deriving DecidableEq, Repr

/-- The fields in their order. -/
def Field.all : List Field := [dsn, driver, maxIdle, maxOpen, maxLifetime]

/-- The name of a field in JSON. -/
def Field.name : Field → String
  | dsn => "dsn"
  | driver => "driver_name"
  | maxIdle => "max_idle_conns"
  | maxOpen => "max_open_conns"
  | maxLifetime => "conn_max_life_time"

/-- The text of a document that is a string. -/
def textOf? (d : Json.Document) : Option String :=
  match d.value? with
  | some (.text s) => some s
  | _ => none

/-- The integer of a document that is an integer of the given type. -/
def integerOf? (k : IntKind) (d : Json.Document) : Option k.Val :=
  match d.value? with
  | some (.number (.signed n)) => k.ofInt? n.val
  | some (.number (.unsigned n)) => k.ofInt? n.val
  | _ => none

/-- Options with a field set to what a document says. -/
def set (o : Options) (d : Json.Document) : Field → Option Options
  | .dsn => (textOf? d).map fun s => { o with dsn := s }
  | .driver => (textOf? d).map fun s => { o with driver := s }
  | .maxIdle => (integerOf? .u32 d).map fun n => { o with maxIdle := n }
  | .maxOpen => (integerOf? .u32 d).map fun n => { o with maxOpen := n }
  | .maxLifetime => (integerOf? .u64 d).map fun n => { o with maxLifetime := n }

/-- Sets the fields that the members of an object name, each at most once. -/
def ofMembers : List Field → Options → List (List Json.Piece × Json.Document) → Option Options
  | _, o, [] => some o
  | seen, o, (name, d) :: rest =>
    match Json.textOf? name with
    | none => none
    | some cs =>
      match Field.all.find? fun f => f.name == String.ofList cs with
      | none => ofMembers seen o rest
      | some f =>
        if seen.contains f then none
        else
          match o.set d f with
          | none => none
          | some o => ofMembers (f :: seen) o rest

/-- Sets fields in their order to the items of a list, which may be too few but not too many. -/
def ofItems : List Field → Options → List Json.Document → Option Options
  | _, o, [] => some o
  | [], _, _ :: _ => none
  | f :: fields, o, d :: rest =>
    match o.set d f with
    | none => none
    | some o => ofItems fields o rest

/-- The options that a document describes. -/
def ofDocument? : Json.Document → Option Options
  | .object members => ofMembers [] {} members
  | .list items => ofItems Field.all {} items
  | _ => none

/-- Reads options from JSON text. -/
def ofJson (cs : List Char) : Except Error Options :=
  match (Json.parse cs).bind ofDocument? with
  | some o => .ok o
  | none => .error (.config .malformed)

/-- Reads options from the bytes of a file, unless there is a reason why it cannot be read. -/
def ofFile (path : String) (content : Except String (List UInt8)) : Except Error Options :=
  match content with
  | .error reason => .error (.config (.unreadable path reason))
  | .ok bytes =>
    match Text.Utf8.decode? bytes with
    | none => .error (.config (.unreadable path "stream did not contain valid UTF-8"))
    | some s => ofJson s.toList

/-- The value of a field as JSON. -/
def get (o : Options) : Field → Json.Value
  | .dsn => .text o.dsn
  | .driver => .text o.driver
  | .maxIdle => .number ((Json.Number.ofInt? o.maxIdle.val).getD (.signed (IntKind.zero .i64)))
  | .maxOpen => .number ((Json.Number.ofInt? o.maxOpen.val).getD (.signed (IntKind.zero .i64)))
  | .maxLifetime => .number (.unsigned o.maxLifetime)

/-- Options as JSON text, with the fields in their order. -/
def json (o : Options) : List Char :=
  (Json.Value.object (Field.all.map fun f => (f.name, o.get f))).compact

/-- The dialect that the driver speaks. -/
def dialect (o : Options) : Except Error Dialect := Dialect.ofDriver o.driver

/-- The longest lifetime of a connection in seconds, if it is limited. -/
def lifetime? (o : Options) : Option U64 := if o.maxLifetime.val = 0 then none else some o.maxLifetime

end Options

end SqlBinding
