import SqlBinding.Error

/-!
# Reports of statements that change rows

After a statement the driver can be asked for the id of the last row inserted and for the number of
rows affected. It is asked only when somebody wants to know, and an answer is remembered; a failure
is not.
-/

set_option autoImplicit false

namespace SqlBinding

open Numeric

/-- The drivers' reports of executed statements: machines that are asked for two numbers and may
fail or answer differently each time. -/
class Report (ρ : Type) where
  lastInsertId : ρ → Except Error I64 × ρ
  rowsAffected : ρ → Except Error I64 × ρ

/-- The number of rows that stands for one that cannot be known. -/
def unknownRows : I64 := minusOne

/-- A report with what has been read of it so far. -/
structure Affected (ρ : Type) where
  report : Option ρ
  dialect : Dialect
  lastInsertId : Option I64
  rowsAffected : Option I64

namespace Affected

variable {ρ : Type}

/-- A fresh report of the driver. -/
def ofReport (report : ρ) (d : Dialect) : Affected ρ := ⟨some report, d, none, none⟩

/-- What is known after a statement that returned an id: the id, but not the number of rows. -/
def returning (id : I64) (d : Dialect) : Affected ρ := ⟨none, d, some id, some unknownRows⟩

/-- The error of an operation that there is not. -/
def unsupported (a : Affected ρ) (operation : Operation) : Error :=
  .unsupportedByDialect operation a.dialect

/-- Asks for the id of the last row inserted. -/
def readLastInsertId [Report ρ] (a : Affected ρ) : Except Error I64 × Affected ρ :=
  match a.lastInsertId with
  | some id => (.ok id, a)
  | none =>
    if a.dialect.supportsLastInsertId then
      match a.report with
      | none => (.error (a.unsupported .driverReport), a)
      | some r =>
        match Report.lastInsertId r with
        | (.ok id, r) => (.ok id, { a with report := some r, lastInsertId := some id })
        | (.error e, r) => (.error e, { a with report := some r })
    else (.error (a.unsupported .lastInsertId), a)

/-- Asks for the number of rows affected. -/
def readRowsAffected [Report ρ] (a : Affected ρ) : Except Error I64 × Affected ρ :=
  match a.rowsAffected with
  | some n => if n = unknownRows then (.error (a.unsupported .rowsAffected), a) else (.ok n, a)
  | none =>
    match a.report with
    | none => (.error (a.unsupported .driverReport), a)
    | some r =>
      match Report.rowsAffected r with
      | (.ok n, r) => (.ok n, { a with report := some r, rowsAffected := some n })
      | (.error e, r) => (.error e, { a with report := some r })

/-- How a description shows a number that may not have been read. -/
def shown : Option I64 → String
  | none => "None"
  | some n => "Some(" ++ String.ofList n.text ++ ")"

/-- What is known so far, for people who look for mistakes. -/
def description (a : Affected ρ) : String :=
  "Affected \x7b dialect: " ++ a.dialect.title ++ ", last_insert_id: " ++ shown a.lastInsertId ++
    ", rows_affected: " ++ shown a.rowsAffected ++ ", .. \x7d"

end Affected

end SqlBinding
