import SqlBinding.Record.Basic

/-!
# Sample record types

Record types that between them have renamed, skipped and clashing columns, optional and nested
records of several depths, arrays and every scalar.
-/

set_option autoImplicit false

namespace SqlBinding.Record.Samples

open Numeric SqlArray

/-- A 64-bit integer field. -/
def i64 : FieldType := .scalar (.int .i64)

/-- A text field. -/
def text : FieldType := .scalar .text

/-- Two plain fields. -/
def user : Fields := .field "id" i64 <| .field "name" text .nil

/-- The same fields in the other order. -/
def reordered : Fields := .field "name" text <| .field "id" i64 .nil

/-- A record with an optional leaf. -/
def address : Fields := .field "city" text <| .field "zip" i64.option .nil

/-- A record with an optional record. -/
def person : Fields := .field "id" i64 <| .field "home" (FieldType.record address).option .nil

/-- A record whose columns are renamed. -/
def location : Fields :=
  .renamed "city" "loc_city" text <| .renamed "zip" "loc_zip" i64.option .nil

/-- A record with a nested record that is never missing. -/
def shop : Fields :=
  .field "id" i64 <| .field "location" (.record location) <|
    .renamed "title" "shop_name" (.scalar (.nullable .text)) .nil

/-- A record with an optional record of renamed columns. -/
def order : Fields := .field "id" i64 <| .field "delivery" (FieldType.record location).option .nil

/-- A record with a skipped field in front. -/
def account : Fields :=
  .skip "cache" (.scalar (.flat .text)) <|
    .renamed "id" "account_id" (.scalar (.int .u32)) <| .field "type" text .nil

/-- Two fields of one column. -/
def shadowed : Fields := .renamed "first" "code" text <| .renamed "second" "code" text .nil

/-- A record without numbers. -/
def profile : Fields := .field "avatar" text <| .field "bio" text.option .nil

/-- A record with a nested record behind plain fields. -/
def member : Fields :=
  .field "id" i64 <| .field "name" text <| .field "profile" (.record profile) .nil

/-- The innermost of three levels. -/
def level3 : Fields :=
  .field "w" (FieldType.scalar (.float .double)).option <|
    .field "v" (.scalar (.nullable (.int .i64))) .nil

/-- The middle of three levels. -/
def level2 : Fields :=
  .field "x" i64 <| .field "y" text <| .field "z" (FieldType.record level3).option .nil

/-- The outermost of three levels. -/
def level1 : Fields :=
  .field "l1" i64.option <| .field "l2" (FieldType.boxed (.record level2)).option .nil

/-- Records behind pointers, and an optional field that is optional itself. -/
def deep : Fields :=
  .field "id" (.boxed i64) <| .field "b" (.boxed (.record level1)) <|
    .field "tail" text.option.option .nil

/-- The inner record of `clash`. -/
def clashInner : Fields := .field "id" i64 <| .field "tag" text .nil

/-- A record whose nested record has columns of the same names. -/
def clash : Fields :=
  .field "id" i64 <| .field "inner" (.record clashInner) <| .field "tag" text .nil

/-- Two nested records of one type. -/
def pair : Fields := .field "a" (.record location) <| .field "b" (.record location) .nil

/-- No fields at all. -/
def empty : Fields := .nil

/-- Array fields. -/
def arrays : Fields :=
  .field "flags" (.scalar (.flat .bool)) <| .field "ints" (.scalar (.flat .int32)) <|
    .field "longs" (.scalar (.flat .int64)) <| .field "reals" (.scalar (.flat .float32)) <|
    .field "doubles" (.scalar (.flat .float64)) <| .field "names" (.scalar (.flat .text)) <|
    .field "blobs" (.scalar (.flat .bytea)) <|
    .field "grid" (.scalar (.nested (.integer .i64))) <|
    .field "opt" (FieldType.scalar (.nested (.optional .text))).option .nil

/-- A field of every scalar type. -/
def leaves : Fields :=
  .field "b" (.scalar .bool) <| .field "i8" (.scalar (.int .i8)) <|
    .field "i16" (.scalar (.int .i16)) <| .field "i32" (.scalar (.int .i32)) <|
    .field "i64" i64 <| .field "isize" (.scalar (.int .isize)) <|
    .field "u8" (.scalar (.int .u8)) <| .field "u16" (.scalar (.int .u16)) <|
    .field "u32" (.scalar (.int .u32)) <| .field "u64" (.scalar (.int .u64)) <|
    .field "usize" (.scalar (.int .usize)) <| .field "f32" (.scalar (.float .single)) <|
    .field "f64" (.scalar (.float .double)) <| .field "text" text <|
    .field "bytes" (.scalar .bytes) <| .field "naive" (.scalar .localDateTime) <|
    .field "date" (.scalar .date) <| .field "utc" (.scalar .utcDateTime) <|
    .field "fixed" (.scalar .timestamp) <| .field "nbool" (.scalar (.nullable .bool)) <|
    .field "ni32" (.scalar (.nullable (.int .i32))) <|
    .field "nf64" (.scalar (.nullable (.float .double))) <|
    .field "ntime" (.scalar (.nullable .localDateTime)) .nil

/-- Column values as they are, one of them under an unusual column name and with a default of its
own. -/
def raw : Fields :=
  .field "v" (.scalar .raw) <|
    .renamed "w" "weird name; -- é" (.leaf .raw (.int minusOne)) .nil

/-- The sample of a name. -/
def named? : String → Option Fields
  | "User" => some user
  | "Reordered" => some reordered
  | "Address" => some address
  | "Person" => some person
  | "Location" => some location
  | "Shop" => some shop
  | "Order" => some order
  | "Account" => some account
  | "Shadowed" => some shadowed
  | "Profile" => some profile
  | "Member" => some member
  | "Level3" => some level3
  | "Level2" => some level2
  | "Level1" => some level1
  | "Deep" => some deep
  | "ClashInner" => some clashInner
  | "Clash" => some clash
  | "Pair" => some pair
  | "Empty" => some empty
  | "Arrays" => some arrays
  | "Leaves" => some leaves
  | "Raw" => some raw
  | _ => none

end SqlBinding.Record.Samples
