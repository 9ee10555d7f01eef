import SqlBinding.Column.Scan

/-!
# Record types

A record type is a description of fields: scalars, optional fields, fields behind a pointer, and
nested records, each with the column it receives. The values of a described type make up an ordinary
type, `FieldType.Val`, and every type has a default value.
-/

set_option autoImplicit false

namespace SqlBinding.Record

mutual

/-- The types of fields. -/
inductive FieldType : Type
  /-- A scalar, with the default of the field. -/
  | leaf (s : Scalar) (default : s.Val)
  /-- A field that may be missing, and by default is unless it is `filled`. -/
  | optional (inner : FieldType) (filled : Bool)
  /-- A field behind a pointer. -/
  | boxed (inner : FieldType)
  /-- A nested record. -/
  | record (fields : Fields)

/-- The fields of a record type in their declared order: the name, the column received by the field,
whether the field takes no part in scanning, and its type. -/
inductive Fields : Type
  | nil
  | cons (name column : String) (skipped : Bool) (type : FieldType) (rest : Fields)

end

mutual

/-- The values of a field type. -/
@[reducible] def FieldType.Val : FieldType → Type
  | .leaf s _ => s.Val
  | .optional inner _ => Option inner.Val
  | .boxed inner => inner.Val
  | .record fields => fields.Val

/-- The values of a record type: one of every field. -/
@[reducible] def Fields.Val : Fields → Type
  | .nil => Unit
  | .cons _ _ _ type rest => type.Val × rest.Val

end

mutual

/-- The default value of a field type. -/
def FieldType.default : (t : FieldType) → t.Val
  | .leaf _ d => d
  | .optional inner filled => if filled then some inner.default else none
  | .boxed inner => inner.default
  | .record fields => fields.default

/-- The default value of a record type. -/
def Fields.default : (fs : Fields) → fs.Val
  | .nil => ()
  | .cons _ _ _ type rest => (type.default, rest.default)

end

namespace FieldType

/-- A scalar field with the default of its type. -/
def scalar (s : Scalar) : FieldType := leaf s s.default

/-- A field that is missing by default. -/
def option (inner : FieldType) : FieldType := optional inner false

end FieldType

namespace Fields

/-- A field in front of others that receives the column of its own name. -/
def field (name : String) (type : FieldType) (rest : Fields) : Fields :=
  cons name name false type rest

/-- A field in front of others that receives another column. -/
def renamed (name column : String) (type : FieldType) (rest : Fields) : Fields :=
  cons name column false type rest

/-- A field in front of others that takes no part in scanning. -/
def skip (name : String) (type : FieldType) (rest : Fields) : Fields :=
  cons name name true type rest

end Fields

end SqlBinding.Record
