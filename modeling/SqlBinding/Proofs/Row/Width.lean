import SqlBinding.Proofs.Outcome
import SqlBinding.Record.Samples
import SqlBinding.Row.Destination

/-!
# Rows of another width than their plan

Records and maps hold a row to the number of columns that it was planned for before they look at a
value. A scalar takes the first value of a row, whatever stands behind it, and however many columns
were planned.
-/

set_option autoImplicit false

namespace SqlBinding

open Numeric

variable {columns : List String} {types : List ColumnType} {plan : RowPlan}
  {values : List ColumnValue}

/-- The plan of a map has the columns of the row. -/
theorem RowPlan.columns_forMap (columns : List String) (types : List ColumnType) :
    (forMap columns types).columns = columns := by
  unfold forMap
  split <;> rfl

/-- A plan is for the columns that it was made from. -/
theorem Destination.columns_of_plan {d : Destination} (h : d.plan columns types = .ok plan) :
    plan.columns = columns := by
  cases d with
  | scalar s =>
    have hplan : RowPlan.forScalar columns = .ok plan := h
    unfold RowPlan.forScalar at hplan
    split at hplan
    · cases hplan
      rfl
    · cases hplan
  | record fs | boxed fs =>
    obtain ⟨paths, -, rfl⟩ := Outcome.map_eq_ok_iff.1 h
    rfl
  | map =>
    cases h
    exact RowPlan.columns_forMap columns types

namespace RowPlan

/-- A row with another number of values than columns is refused. -/
theorem checkWidth_of_ne (h : values.length ≠ plan.columns.length) :
    plan.checkWidth values =
      .error (.invalidContainer (.rowWidth values.length plan.columns.length)) := if_neg h

/-- A record refuses a row of another width than its plan. -/
theorem bindRecord_of_ne {fs : Record.Fields} (hplan : forRecord fs columns = .ok plan)
    (h : values.length ≠ plan.columns.length) :
    plan.bindRecord fs values =
      .error (.invalidContainer (.rowWidth values.length plan.columns.length)) := by
  obtain ⟨paths, -, rfl⟩ := Outcome.map_eq_ok_iff.1 hplan
  simp only [bindRecord, checkWidth_of_ne h]

/-- A map refuses a row of another width than its columns. -/
theorem bindMap_of_ne (types : List ColumnType) (h : values.length ≠ columns.length) :
    (forMap columns types).bindMap values =
      .error (.invalidContainer (.rowWidth values.length columns.length)) := by
  have hcolumns := columns_forMap columns types
  have htyped : ∃ known, (forMap columns types).target = .typed known := by
    unfold forMap
    split <;> exact ⟨_, rfl⟩
  obtain ⟨known, hknown⟩ := htyped
  rw [← hcolumns] at h
  simp only [bindMap, hknown, checkWidth_of_ne h, hcolumns]

/-- A scalar finds no fault with a row that has a first value. -/
theorem bindScalar_refused_iff {s : Scalar} :
    (∃ fault, plan.bindScalar s values = .error (.invalidContainer fault)) ↔ values = [] := by
  cases values with
  | nil => exact ⟨fun _ => rfl, fun _ => ⟨.emptyRow, rfl⟩⟩
  | cons v rest =>
    rw [bindScalar]
    cases s.ofColumn v <;> simp [Except.mapError, scanError]

/-- A scalar never looks behind the first value of a row. -/
theorem exists_bindScalar_eq_ok_iff {s : Scalar} :
    (∃ x, plan.bindScalar s values = .ok x) ↔
      ∃ v rest x, values = v :: rest ∧ s.ofColumn v = .ok x := by
  cases values with
  | nil => simp [bindScalar]
  | cons v rest =>
    rw [bindScalar]
    cases hv : s.ofColumn v <;> simp [Except.mapError, hv]

end RowPlan

namespace Destination

/-- Records and maps refuse a row with another number of values than columns. -/
theorem bind_of_shape_ne {d : Destination} (hplan : d.plan columns types = .ok plan)
    (hwidth : values.length ≠ plan.columns.length) (hshape : d.shape ≠ .scalar) :
    d.bind plan values =
      .error (.invalidContainer (.rowWidth values.length plan.columns.length)) := by
  cases d with
  | scalar s => exact absurd rfl hshape
  | record fs | boxed fs => exact RowPlan.bindRecord_of_ne hplan hwidth
  | map =>
    cases hplan
    rw [RowPlan.columns_forMap] at hwidth ⊢
    exact RowPlan.bindMap_of_ne types hwidth

/-- A row of another width than its plan is refused for it by every destination but a scalar. A
scalar refuses the empty row alone, and is bound to any other whose first value it takes. -/
theorem width_checked_iff (d : Destination) (hplan : d.plan columns types = .ok plan)
    (hwidth : values.length ≠ plan.columns.length) :
    plan.columns = columns ∧
    ((∃ fault, d.bind plan values = .error (.invalidContainer fault)) ↔
      ¬ (d.shape = .scalar ∧ values ≠ [])) ∧
    ((∃ x, d.bind plan values = .ok x) ↔
      ∃ s v rest x, d = .scalar s ∧ values = v :: rest ∧ s.ofColumn v = .ok x) := by
  refine ⟨columns_of_plan hplan, ?_⟩
  by_cases hshape : d.shape = .scalar
  · obtain ⟨s, rfl⟩ : ∃ s, d = .scalar s := by
      cases d with
      | scalar s => exact ⟨s, rfl⟩
      | record fs | boxed fs | map => cases hshape
    constructor
    · have hempty : ¬ ((scalar s).shape = .scalar ∧ values ≠ []) ↔ values = [] := by simp [shape]
      exact RowPlan.bindScalar_refused_iff.trans hempty.symm
    · refine RowPlan.exists_bindScalar_eq_ok_iff.trans ⟨?_, ?_⟩
      · rintro ⟨v, rest, x, hvalues, hx⟩
        exact ⟨s, v, rest, x, rfl, hvalues, hx⟩
      · rintro ⟨s', v, rest, x, hscalar, hvalues, hx⟩
        cases hscalar
        exact ⟨v, rest, x, hvalues, hx⟩
  · have hrefused := bind_of_shape_ne hplan hwidth hshape
    refine ⟨⟨fun _ h => hshape h.1, fun _ => ⟨_, hrefused⟩⟩, ?_, ?_⟩
    · rintro ⟨x, hx⟩
      cases hrefused.symm.trans hx
    · rintro ⟨s, -, -, -, rfl, -⟩
      exact absurd rfl hshape

/-- A row of two values for one column is refused by a record, and a number is bound to its first
value. -/
theorem width_checked_two_values :
    let one := ColumnValue.int ⟨1, by decide, by decide⟩
    let values := [one, .text "x"]
    let fields : RowPlan := ⟨["id"], .fields [[0]]⟩
    let single : RowPlan := ⟨["id"], .single⟩
    (record Record.Samples.user).plan ["id"] [] = .ok fields ∧
      values.length ≠ fields.columns.length ∧
      (∃ fault,
        (record Record.Samples.user).bind fields values = .error (.invalidContainer fault)) ∧
      (scalar (.int .i64)).plan ["id"] [] = .ok single ∧ values.length ≠ single.columns.length ∧
      ∃ x, (scalar (.int .i64)).bind single values = .ok x := by
  intro one values fields single
  have hfields : (record Record.Samples.user).plan ["id"] [] = .ok fields := by rfl
  have hsingle : (scalar (.int .i64)).plan ["id"] [] = .ok single := rfl
  have hwide : values.length ≠ fields.columns.length := by decide
  refine ⟨hfields, hwide, ?_, hsingle, hwide, ?_⟩
  · exact (width_checked_iff _ hfields hwide).2.1.2 (by simp [shape])
  · exact (width_checked_iff _ hsingle hwide).2.2.2 ⟨_, one, _, _, rfl, rfl, rfl⟩

/-- A number is bound to a row with a value more than there are columns. -/
theorem scalar_takes_wide_row :
    ¬ ∀ (d : Destination) (columns : List String) (types : List ColumnType) (plan : RowPlan)
      (values : List ColumnValue), d.plan columns types = .ok plan →
      values.length ≠ plan.columns.length →
      ∃ fault, d.bind plan values = .error (.invalidContainer fault) := by
  intro h
  obtain ⟨fault, hfault⟩ := h (scalar (.int .i64)) ["n"] [] ⟨["n"], .single⟩
    [.int IntKind.i64.zero, .int IntKind.i64.zero] rfl (by decide)
  cases hfault

end Destination

end SqlBinding
