import SqlBinding.Proofs.Record.Paths
import SqlBinding.Record.Samples
import SqlBinding.Record.Write

/-!
# Writing at an unknown path

A path that is not that of a leaf is found out where it leaves the fields: at an index without a
field, at a skipped field, below a leaf, or where it ends at a record. A write is refused there,
with what is left of the path, unless it does not get that far: NULL goes no further than an
optional field that is missing or that the path ends at (`StopsNull`), and is taken there whatever
the path.
-/

set_option autoImplicit false

namespace SqlBinding.Record

open Numeric

/-- Whether an outcome is the refusal of a path, which is reported from some field on. -/
def PathRefused (path : Path) (outcome : Except ScanError Unit) : Prop :=
  ∃ rest, rest <:+ path ∧ outcome = .error (.fieldPath rest)

/-- The refusal of a path is one of every path that ends with it. -/
theorem PathRefused.of_suffix {path path' : Path} {outcome : Except ScanError Unit}
    (h : PathRefused path outcome) (hsuffix : path <:+ path') : PathRefused path' outcome := by
  obtain ⟨rest, hrest, rfl⟩ := h
  exact ⟨rest, hrest.trans hsuffix, rfl⟩

mutual

/-- Whether NULL on its way along a path comes to an optional field that is missing, or that the
path ends at. -/
def FieldType.StopsNull : (t : FieldType) → t.Val → Path → Prop
  | .leaf _ _, _, _ => False
  | .optional _ _, none, _ => True
  | .optional inner _, some content, path => path = [] ∨ inner.StopsNull content path
  | .boxed inner, val, path => inner.StopsNull val path
  | .record _, _, [] => False
  | .record fields, val, index :: rest => fields.StopsNull val index rest

/-- Whether NULL on its way along a path from the field with the given index comes to such an
optional field. There is no way through a skipped field. -/
def Fields.StopsNull : (fs : Fields) → fs.Val → Nat → Path → Prop
  | .nil, _, _, _ => False
  | .cons _ _ skipped type _, val, 0, rest => skipped = false ∧ type.StopsNull val.1 rest
  | .cons _ _ _ _ others, val, index + 1, rest => others.StopsNull val.2 index rest

end

mutual

/-- NULL is taken by an optional field that stops it. -/
theorem FieldType.write_of_stopsNull (t : FieldType) {old : t.Val} {path : Path}
    (h : t.StopsNull old path) : (t.write old path .null).2 = .ok () := by
  cases t with
  | leaf s d => cases h
  | optional inner filled =>
    cases path with
    | nil => rfl
    | cons index rest =>
      cases old with
      | none => rfl
      | some content =>
        rcases h with hnil | hinner
        · cases hnil
        · exact inner.write_of_stopsNull hinner
  | boxed inner => exact FieldType.write_of_stopsNull inner h
  | record fields =>
    cases path with
    | nil => cases h
    | cons index rest => exact fields.write_of_stopsNull h (index :: rest)

/-- NULL that comes to an optional field is taken whatever the rest of the path. -/
theorem Fields.write_of_stopsNull (fs : Fields) {old : fs.Val} {index : Nat} {rest : Path}
    (h : fs.StopsNull old index rest) (path : Path) :
    (fs.write index rest path old .null).2 = .ok () := by
  cases fs with
  | nil => cases h
  | cons name column skipped type others =>
    cases index with
    | zero =>
      obtain ⟨rfl, htype⟩ := h
      exact type.write_of_stopsNull htype
    | succ index => exact others.write_of_stopsNull h path

end

mutual

/-- A write at an unknown path is refused for the path unless NULL is stopped before. -/
theorem FieldType.pathRefused_write (t : FieldType) {path : Path} (hfield : t.field? path = none)
    {old : t.Val} {v : ColumnValue} (hv : v = .null → ¬ t.StopsNull old path) :
    PathRefused path (t.write old path v).2 := by
  cases t with
  | leaf s d =>
    cases path with
    | nil => cases hfield
    | cons index rest => exact ⟨_, List.suffix_refl _, rfl⟩
  | optional inner filled =>
    have hinner : inner.field? path = none := by
      rw [← Option.not_isSome_iff_eq_none, ← FieldType.isSome_field?_optional inner filled,
        Option.not_isSome_iff_eq_none]
      exact hfield
    by_cases hnull : v = .null
    · subst hnull
      have hstops := hv rfl
      -- NULL is handed on only by a field that is there and has some of the path below it.
      cases old with
      | none => exact absurd trivial hstops
      | some content =>
        cases path with
        | nil => exact absurd (.inl rfl) hstops
        | cons index rest =>
          exact inner.pathRefused_write hinner fun _ hcontent => hstops (.inr hcontent)
    · have hwrite : ((FieldType.optional inner filled).write old path v).2 =
          (inner.write (old.getD inner.default) path v).2 := by
        cases v with
        | null => exact absurd rfl hnull
        | bool | int | float | text | bytes | timestamp => rfl
      rw [hwrite]
      exact inner.pathRefused_write hinner fun h => absurd h hnull
  | boxed inner =>
    have hinner : inner.field? path = none := by
      rw [← Option.not_isSome_iff_eq_none, ← FieldType.isSome_field?_boxed inner,
        Option.not_isSome_iff_eq_none]
      exact hfield
    exact inner.pathRefused_write hinner hv
  | record fields =>
    cases path with
    | nil => exact ⟨[], List.suffix_refl _, rfl⟩
    | cons index rest => exact fields.pathRefused_write hfield (List.suffix_cons index rest) hv

/-- A path that leads to no field is refused, unless NULL is stopped on the way. -/
theorem Fields.pathRefused_write (fs : Fields) {index : Nat} {rest path : Path}
    (hfield : fs.field? index rest = none) (hsuffix : rest <:+ path) {old : fs.Val}
    {v : ColumnValue} (hv : v = .null → ¬ fs.StopsNull old index rest) :
    PathRefused path (fs.write index rest path old v).2 := by
  cases fs with
  | nil => exact ⟨path, List.suffix_refl path, rfl⟩
  | cons name column skipped type others =>
    cases index with
    | zero =>
      cases skipped with
      | true => exact ⟨path, List.suffix_refl path, rfl⟩
      | false =>
        have htype : PathRefused rest (type.write old.1 rest v).2 :=
          type.pathRefused_write hfield fun hnull hstops => hv hnull ⟨rfl, hstops⟩
        exact htype.of_suffix hsuffix
    | succ index => exact others.pathRefused_write hfield hsuffix hv

end

namespace Fields

/-- A write at a path that is not that of a leaf is refused for the path, whatever the record holds,
unless the value is NULL and an optional field on the way is missing or is where the path ends; then
the write succeeds. -/
theorem unknownPath_refused_iff (fs : Fields) (r : fs.Val) {path : Path}
    (hpath : path ∉ (fs.leaves 0).map Prod.snd) (v : ColumnValue) :
    (PathRefused path (fs.scanField r path v).2 ↔
      ¬ (v = .null ∧ (FieldType.record fs).StopsNull r path)) ∧
    (v = .null → (FieldType.record fs).StopsNull r path → (fs.scanField r path v).2 = .ok ()) := by
  have hfield : (FieldType.record fs).field? path = none := by
    rwa [fs.mem_leaves_iff, Option.not_isSome_iff_eq_none] at hpath
  have htaken (hnull : v = .null) (hstops : (FieldType.record fs).StopsNull r path) :
      (fs.scanField r path v).2 = .ok () := by
    subst hnull
    exact (FieldType.record fs).write_of_stopsNull hstops
  refine ⟨⟨?_, fun h => ?_⟩, htaken⟩
  · rintro ⟨rest, -, hrefused⟩ ⟨hnull, hstops⟩
    cases (htaken hnull hstops).symm.trans hrefused
  · exact (FieldType.record fs).pathRefused_write hfield fun hnull hstops => h ⟨hnull, hstops⟩

/-- A home that is there passes NULL on to the index that it has no field for; one that is missing
takes it, and so does one that the path ends at. -/
theorem unknownPath_refused_person :
    let here : Samples.person.Val := (IntKind.i64.zero, some ("", none, ()), ())
    let gone : Samples.person.Val := (IntKind.i64.zero, none, ())
    [1, 9] ∉ (Samples.person.leaves 0).map Prod.snd ∧
      [1] ∉ (Samples.person.leaves 0).map Prod.snd ∧
      PathRefused [1, 9] (Samples.person.scanField here [1, 9] .null).2 ∧
      PathRefused [1, 9] (Samples.person.scanField gone [1, 9] (.bool true)).2 ∧
      (Samples.person.scanField gone [1, 9] .null).2 = .ok () ∧
      (Samples.person.scanField here [1] .null).2 = .ok () := by
  intro here gone
  have hlong : [1, 9] ∉ (Samples.person.leaves 0).map Prod.snd := by decide
  have hshort : [1] ∉ (Samples.person.leaves 0).map Prod.snd := by decide
  refine ⟨hlong, hshort, ?_, ?_, ?_, ?_⟩
  · refine (unknownPath_refused_iff _ here hlong .null).1.2 ?_
    rintro ⟨-, -, hnil | hnone⟩
    · cases hnil
    · exact hnone
  · exact (unknownPath_refused_iff _ gone hlong (.bool true)).1.2 (by simp)
  · exact (unknownPath_refused_iff _ gone hlong .null).2 rfl ⟨rfl, trivial⟩
  · exact (unknownPath_refused_iff _ here hshort .null).2 rfl ⟨rfl, .inl rfl⟩

/-- An optional record that is missing takes NULL for a field that it does not have. -/
theorem unknownPath_takes_null :
    ¬ ∀ (fs : Fields) (r : fs.Val) (path : Path) (v : ColumnValue),
      path ∉ (fs.leaves 0).map Prod.snd → PathRefused path (fs.scanField r path v).2 := by
  intro h
  obtain ⟨rest, -, hrefused⟩ := h Samples.person Samples.person.default [1, 9] .null (by decide)
  cases hrefused

end Fields

end SqlBinding.Record
