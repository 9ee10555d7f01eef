import SqlBinding.Column.Scan
import SqlBinding.Proofs.Outcome

/-!
# Why a column value is refused

A scalar that does not take a column value finds fault with the value or its text, never with the
path on which the value came.
-/

set_option autoImplicit false

namespace SqlBinding

/-- Whether an outcome leaves out the error of a path without a field. -/
def PathFree {α : Type} (outcome : Except ScanError α) : Prop :=
  ∀ path, outcome ≠ .error (.fieldPath path)

namespace PathFree

variable {α β : Type}

/-- A value is no error of a path. -/
theorem ok (a : α) : PathFree (.ok a : Except ScanError α) := fun _ h => nomatch h

/-- What is made of a value does not matter to the error. -/
theorem map {outcome : Except ScanError α} (h : PathFree outcome) (f : α → β) :
    PathFree (outcome.map f) :=
  fun path herror => h path (Outcome.map_eq_error_iff.1 herror)

/-- An error that one outcome has may be handed on by another. -/
theorem of_eq_error {outcome : Except ScanError α} {e : ScanError} (h : PathFree outcome)
    (herror : outcome = .error e) : PathFree (.error e : Except ScanError β) := by
  intro path hpath
  cases hpath
  exact h path herror

/-- A value out of range is no error of a path. -/
theorem outOfRange (value : List Char) (target : String) :
    PathFree (.error (.outOfRange value target) : Except ScanError α) := fun _ h => nomatch h

/-- A text that spells no value is no error of a path. -/
theorem parse (text target : String) :
    PathFree (.error (.parse text target) : Except ScanError α) := fun _ h => nomatch h

/-- A value without a conversion is no error of a path. -/
theorem refused (v : ColumnValue) (target : String) :
    PathFree (.error (v.refused target) : Except ScanError α) := by
  intro path h
  cases v <;> cases h

/-- A value without a text is refused for itself. -/
theorem textOf (v : ColumnValue) (target : String) : PathFree (v.textOf target) := by
  unfold ColumnValue.textOf
  split
  · exact ok _
  · split
    · exact ok _
    · exact parse _ _
  · exact refused _ _

/-- A text is parsed or refused for itself. -/
theorem parsed (v : ColumnValue) (target : String) (read : List Char → Option α) :
    PathFree (v.parsed target read) := by
  unfold ColumnValue.parsed
  split
  · rename_i herror
    exact (textOf v target).of_eq_error herror
  · split
    · exact ok _
    · exact parse _ _

/-- The text of an array is read or refused for itself. -/
theorem toArray (v : ColumnValue) (target : String)
    (decode : List Char → Except ArrayError α) : PathFree (v.toArray target decode) := by
  unfold ColumnValue.toArray
  split
  · rename_i herror
    exact (textOf v target).of_eq_error herror
  · split
    · exact ok _
    · exact fun _ h => nomatch h

/-- An integer is refused for its value or its text. -/
theorem toInteger (v : ColumnValue) (k : Numeric.IntKind) : PathFree (v.toInteger k) := by
  unfold ColumnValue.toInteger
  split
  · split
    · exact ok _
    · exact outOfRange _ _
  · split
    · exact refused _ _
    · split
      · exact ok _
      · exact outOfRange _ _
  · exact ok _
  · exact parsed _ _ _
  · exact parsed _ _ _
  · exact refused _ _
  · exact refused _ _

/-- A double is refused for its value or its text. -/
theorem toDouble (v : ColumnValue) : PathFree v.toDouble := by
  unfold ColumnValue.toDouble
  split
  · exact ok _
  · exact ok _
  · exact parsed _ _ _
  · exact parsed _ _ _
  · exact refused _ _
  · exact refused _ _
  · exact refused _ _

/-- A single is refused for its value or its text. -/
theorem toSingle (v : ColumnValue) : PathFree v.toSingle := by
  unfold ColumnValue.toSingle
  split
  · split
    · exact outOfRange _ _
    · split
      · exact ok _
      · exact parse _ _
  · exact ok _
  · exact parsed _ _ _
  · exact parsed _ _ _
  · exact refused _ _
  · exact refused _ _
  · exact refused _ _

/-- A truth value is refused for its value or its text. -/
theorem toBool (v : ColumnValue) : PathFree v.toBool := by
  unfold ColumnValue.toBool
  split
  · exact ok _
  · split
    · exact ok _
    · split
      · exact ok _
      · exact outOfRange _ _
  · exact parsed _ _ _
  · exact parsed _ _ _
  · exact refused _ _
  · exact refused _ _
  · exact refused _ _

/-- A text is refused for its value. -/
theorem toText (v : ColumnValue) : PathFree v.toText := by
  unfold ColumnValue.toText
  split
  · exact ok _
  · exact textOf _ _
  · exact ok _
  · exact ok _
  · exact ok _
  · exact ok _
  · exact refused _ _

/-- Bytes are refused for their value. -/
theorem toBytes (v : ColumnValue) : PathFree v.toBytes := by
  unfold ColumnValue.toBytes
  split
  · exact ok _
  · exact ok _
  · exact ok _
  · exact ok _
  · exact refused _ _
  · exact refused _ _
  · exact refused _ _

/-- The text of a time is parsed, refused for itself, or stops the program. -/
theorem parsedTime (v : ColumnValue) : PathFree v.parsedTime := by
  unfold ColumnValue.parsedTime
  split
  · rename_i herror
    exact (textOf v "timestamp").of_eq_error herror
  · split
    · exact ok _
    · exact parse _ _
    · exact fun _ h => nomatch h

/-- A point in time is refused for its value or its text. -/
theorem toTimestamp (v : ColumnValue) : PathFree v.toTimestamp := by
  unfold ColumnValue.toTimestamp
  split
  · exact ok _
  · exact parsedTime _
  · exact parsedTime _
  · exact refused _ _
  · exact refused _ _
  · exact refused _ _
  · exact refused _ _

/-- No scalar type refuses a value for its path. -/
theorem ofColumn (v : ColumnValue) : ∀ s : Scalar, PathFree (s.ofColumn v)
  | .bool => toBool v
  | .int k => toInteger v k
  | .float .single => toSingle v
  | .float .double => toDouble v
  | .text => toText v
  | .bytes => toBytes v
  | .localDateTime | .utcDateTime | .date => (toTimestamp v).map _
  | .timestamp => toTimestamp v
  | .raw => ok v
  | .flat _ | .nested _ => toArray v _ _
  | .optional s | .nullable s => by
    unfold Scalar.ofColumn
    split
    · exact ok _
    · exact (ofColumn v s).map _

end PathFree

end SqlBinding
