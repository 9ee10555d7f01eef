import SqlBinding.Affected

/-!
# Scripted reports

A report of an executed statement whose answers are written down beforehand.
-/

set_option autoImplicit false

namespace SqlBinding.Scripted

open Numeric

/-- The answers to one question: the first, those that follow, and from then on the last again. -/
structure Script where
  first : Except Error I64
  others : List (Except Error I64)

namespace Script

/-- The script that always answers zero. -/
def zero : Script := ⟨.ok (IntKind.zero .i64), []⟩

/-- Takes the next answer. -/
def read (s : Script) : Except Error I64 × Script :=
  match s.others with
  | [] => (s.first, s)
  | answer :: rest => (s.first, ⟨answer, rest⟩)

end Script

/-- A report with the answers to both questions and the number of questions asked. -/
structure ReportScript where
  lastInsertId : Script := .zero
  rowsAffected : Script := .zero
  reads : Nat := 0

instance : Report ReportScript where
  lastInsertId r := r.lastInsertId.read.map id fun s =>
    { r with lastInsertId := s, reads := r.reads + 1 }
  rowsAffected r := r.rowsAffected.read.map id fun s =>
    { r with rowsAffected := s, reads := r.reads + 1 }

end SqlBinding.Scripted
