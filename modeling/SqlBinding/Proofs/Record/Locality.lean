import SqlBinding.Proofs.Record.Writes
import SqlBinding.Record.Samples

/-!
# Writes are local

A record holds parts at its paths: fields, what is inside optional fields that are there, and what
is behind pointers (`Holds`). A write puts a converted value at its path. What is not on the way
there stays as it is, except that a record which was missing on the way is filled in and comes with
its defaults (`FieldType.holds_put_off`); the records on the way stay there
(`FieldType.present_put`). Together these say what a successful write leaves alone
(`Fields.write_changes_path_only`).
-/

set_option autoImplicit false

namespace SqlBinding.Record

open Numeric

/-- A field type with one of its values. -/
abbrev Part := (t : FieldType) × t.Val

mutual

/-- Whether a value of a field type holds a part at a path. -/
def FieldType.Holds : (t : FieldType) → t.Val → Path → Part → Prop
  | .leaf s d, val, path, part => path = [] ∧ part = ⟨.leaf s d, val⟩
  | .optional inner filled, val, path, part =>
    (path = [] ∧ part = ⟨.optional inner filled, val⟩) ∨
      ∃ content, val = some content ∧ inner.Holds content path part
  | .boxed inner, val, path, part =>
    (path = [] ∧ part = ⟨.boxed inner, val⟩) ∨ inner.Holds val path part
  | .record fields, val, [], part => part = ⟨.record fields, val⟩
  | .record fields, val, index :: rest, part => fields.Holds val index rest part

/-- Whether fields hold a part at a path from the field with the given index. -/
def Fields.Holds : (fs : Fields) → fs.Val → Nat → Path → Part → Prop
  | .nil, _, _, _, _ => False
  | .cons _ _ _ type _, val, 0, rest, part => type.Holds val.1 rest part
  | .cons _ _ _ _ others, val, index + 1, rest, part => others.Holds val.2 index rest part

end

/-- All that a leaf holds is at the leaf, and a leaf itself. -/
theorem FieldType.Holds.of_isLeaf {t : FieldType} {val : t.Val} {path : Path} {part : Part}
    (h : t.Holds val path part)
    (hleaf : t.isLeaf) : path = [] ∧ part.1.isLeaf := by
  cases t with
  | leaf s d =>
    obtain ⟨rfl, rfl⟩ := h
    exact ⟨rfl, rfl⟩
  | optional inner filled =>
    rcases h with ⟨rfl, rfl⟩ | ⟨content, -, h⟩
    · exact ⟨rfl, hleaf⟩
    · exact FieldType.Holds.of_isLeaf (t := inner) h hleaf
  | boxed inner =>
    rcases h with ⟨rfl, rfl⟩ | h
    · exact ⟨rfl, hleaf⟩
    · exact FieldType.Holds.of_isLeaf (t := inner) h hleaf
  | record fields => cases hleaf

mutual

/-- A default holds nothing but defaults. -/
theorem FieldType.eq_default_of_holds (t : FieldType) {path : Path} {part : Part}
    (h : t.Holds t.default path part) :
    part.2 = part.1.default := by
  cases t with
  | leaf s d =>
    obtain ⟨-, rfl⟩ := h
    rfl
  | optional inner filled =>
    rcases h with ⟨-, rfl⟩ | ⟨content, hcontent, h⟩
    · rfl
    · cases filled with
      | false => cases hcontent
      | true =>
        obtain rfl : inner.default = content := Option.some.inj hcontent
        exact inner.eq_default_of_holds h
  | boxed inner =>
    rcases h with ⟨-, rfl⟩ | h
    · rfl
    · exact inner.eq_default_of_holds h
  | record fields =>
    cases path with
    | nil =>
      obtain rfl := h
      rfl
    | cons index rest => exact fields.eq_default_of_holds h

/-- The parts of the default record are the defaults of their types. -/
theorem Fields.eq_default_of_holds (fs : Fields) {index : Nat} {rest : Path} {part : Part}
    (h : fs.Holds fs.default index rest part) : part.2 = part.1.default := by
  cases fs with
  | nil => cases h
  | cons name column skipped type others =>
    cases index with
    | zero => exact type.eq_default_of_holds h
    | succ index => exact others.eq_default_of_holds h

end

mutual

/-- A value that was written is found at its path, converted by the leaf there. -/
theorem FieldType.holds_put (t : FieldType) {val val' : t.Val} {path : Path} {v : ColumnValue}
    (hfield : (t.field? path).isSome)
    (hv : v ≠ .null) (hput : t.put val path v = some val') :
    ∃ s d x, s.ofColumn v = .ok x ∧ t.Holds val' path ⟨.leaf s d, x⟩ := by
  cases t with
  | leaf s d =>
    cases path with
    | cons index rest => cases hfield
    | nil =>
      rw [FieldType.put, FieldType.write] at hput
      cases hx : s.ofColumn v with
      | error e =>
        rw [hx] at hput
        cases hput
      | ok x =>
        rw [hx] at hput
        cases hput
        exact ⟨s, d, _, hx, rfl, rfl⟩
  | optional inner filled =>
    rw [FieldType.isSome_field?_optional] at hfield
    rw [FieldType.put_optional hv] at hput
    obtain ⟨content, hcontent, rfl⟩ := Option.map_eq_some_iff.1 hput
    obtain ⟨s, d, x, hx, hholds⟩ := inner.holds_put hfield hv hcontent
    exact ⟨s, d, x, hx, .inr ⟨content, rfl, hholds⟩⟩
  | boxed inner =>
    rw [FieldType.isSome_field?_boxed] at hfield
    rw [FieldType.put_boxed] at hput
    obtain ⟨s, d, x, hx, hholds⟩ := inner.holds_put hfield hv hput
    exact ⟨s, d, x, hx, .inr hholds⟩
  | record fields =>
    cases path with
    | nil => cases hfield
    | cons index rest =>
      rw [FieldType.put_record] at hput
      exact fields.holds_put hfield hv hput

/-- A value that is not NULL is held by the leaf it is written at. -/
theorem Fields.holds_put (fs : Fields) {val val' : fs.Val} {index : Nat} {rest : Path}
    {v : ColumnValue} (hfield : (fs.field? index rest).isSome) (hv : v ≠ .null)
    (hput : fs.put val index rest v = some val') :
    ∃ s d x, s.ofColumn v = .ok x ∧ fs.Holds val' index rest ⟨.leaf s d, x⟩ := by
  cases fs with
  | nil => cases hfield
  | cons name column skipped type others =>
    cases index with
    | zero =>
      cases skipped with
      | true => cases hfield
      | false =>
        rw [Fields.put_zero] at hput
        obtain ⟨first, hfirst, rfl⟩ := Option.map_eq_some_iff.1 hput
        exact type.holds_put hfield hv hfirst
    | succ index =>
      rw [Fields.put_succ] at hput
      obtain ⟨later, hlater, rfl⟩ := Option.map_eq_some_iff.1 hput
      exact others.holds_put hfield hv hlater

end

/-- A write below an optional field: NULL leaves a missing one missing, and everything else is
written into the content, which is the default one if the field was missing. -/
theorem FieldType.put_optional_below {inner : FieldType} {filled : Bool}
    {val val' : Option inner.Val} {path : Path} {v : ColumnValue} (hpath : path ≠ [])
    (hput : (FieldType.optional inner filled).put val path v = some val') :
    (v = .null ∧ val = none ∧ val' = none) ∨
      ∃ content, val' = some content ∧ inner.put (val.getD inner.default) path v = some content ∧
        (v ≠ .null ∨ val.isSome) := by
  obtain ⟨index, rest, rfl⟩ := List.exists_cons_of_ne_nil hpath
  by_cases hv : v = .null
  · subst hv
    cases val with
    | none =>
      rw [FieldType.put_optional_dropped] at hput
      exact .inl ⟨rfl, rfl, (Option.some.inj hput).symm⟩
    | some old =>
      rw [FieldType.put_optional_null] at hput
      obtain ⟨content, hcontent, rfl⟩ := Option.map_eq_some_iff.1 hput
      exact .inr ⟨content, rfl, hcontent, .inr rfl⟩
  · rw [FieldType.put_optional hv] at hput
    obtain ⟨content, hcontent, rfl⟩ := Option.map_eq_some_iff.1 hput
    exact .inr ⟨content, rfl, hcontent, .inl hv⟩

/-- The path of a leaf below a record is not empty. -/
theorem FieldType.ne_nil_of_not_isLeaf {t : FieldType} {path : Path} (hrecord : t.isLeaf = false)
    (hfield : (t.field? path).isSome) : path ≠ [] := by
  rintro rfl
  simp [field?_nil, hrecord] at hfield

/-- A leaf holds no optional record. -/
theorem FieldType.not_holds_record {t inner : FieldType} {filled : Bool} {val : t.Val} {path : Path}
    {content : Option inner.Val} (hleaf : t.isLeaf) (hinner : inner.isLeaf = false) :
    ¬ t.Holds val path ⟨.optional inner filled, content⟩ := by
  intro h
  have hpart : inner.isLeaf = true := (h.of_isLeaf hleaf).2
  rw [hinner] at hpart
  cases hpart

/-- What an optional field holds at another path than its own is inside its content. -/
theorem FieldType.holds_optional_below {inner : FieldType} {filled : Bool} {val : Option inner.Val}
    {path : Path} {part : Part} (hpath : path ≠ []) :
    (FieldType.optional inner filled).Holds val path part ↔
      ∃ content, val = some content ∧ inner.Holds content path part :=
  or_iff_right fun h => hpath h.1

/-- A box holds below it what its content holds. -/
theorem FieldType.holds_boxed_below {inner : FieldType} {val : inner.Val} {path : Path}
    {part : Part} (hpath : path ≠ []) :
    (FieldType.boxed inner).Holds val path part ↔ inner.Holds val path part :=
  or_iff_right fun h => hpath h.1

/-- Whether an optional record at a path is missing. -/
def FieldType.MissingAt (t : FieldType) (val : t.Val) (path : Path) : Prop :=
  ∃ (inner : FieldType) (filled : Bool), inner.isLeaf = false ∧
    t.Holds val path ⟨.optional inner filled, none⟩

/-- Whether an optional record at a path from the field with an index is missing. -/
def Fields.MissingAt (fs : Fields) (val : fs.Val) (index : Nat) (path : Path) : Prop :=
  ∃ (inner : FieldType) (filled : Bool), inner.isLeaf = false ∧
    fs.Holds val index path ⟨.optional inner filled, none⟩

/-- Whether an optional record on the way to both of two paths is missing. -/
def FieldType.MissingAbove (t : FieldType) (val : t.Val) (path path' : Path) : Prop :=
  ∃ above, t.MissingAt val above ∧ above <+: path ∧ above <+: path'

/-- Whether an optional record on the way to both of two paths is missing, each path from the field
with its index. -/
def Fields.MissingAbove (fs : Fields) (val : fs.Val) (index : Nat) (path : Path) (index' : Nat)
    (path' : Path) : Prop :=
  index = index' ∧ ∃ above, fs.MissingAt val index above ∧ above <+: path ∧ above <+: path'

namespace FieldType.MissingAbove

variable {inner : FieldType} {filled : Bool} {path path' : Path}

/-- What is missing in the content of an optional record is missing in the record. -/
theorem optional {content : inner.Val} (h : inner.MissingAbove content path path') :
    (optional inner filled).MissingAbove (some content) path path' := by
  obtain ⟨above, ⟨inner', filled', hinner, hholds⟩, habove⟩ := h
  exact ⟨above, ⟨inner', filled', hinner, .inr ⟨content, rfl, hholds⟩⟩, habove⟩

/-- What is missing in the content of a box is missing in the box. -/
theorem boxed {val : inner.Val} (h : inner.MissingAbove val path path') :
    (boxed inner).MissingAbove val path path' := by
  obtain ⟨above, ⟨inner', filled', hinner, hholds⟩, habove⟩ := h
  exact ⟨above, ⟨inner', filled', hinner, .inr hholds⟩, habove⟩

/-- What is missing in the fields of a record is missing in the record. -/
theorem record {fields : Fields} {val : fields.Val} {index index' : Nat}
    (h : fields.MissingAbove val index path index' path') :
    (record fields).MissingAbove val (index :: path) (index' :: path') := by
  obtain ⟨rfl, above, hmissing, hpath, hpath'⟩ := h
  exact ⟨index :: above, hmissing, List.cons_prefix_cons.2 ⟨rfl, hpath⟩,
    List.cons_prefix_cons.2 ⟨rfl, hpath'⟩⟩

end FieldType.MissingAbove

mutual

/-- A write leaves everything as it is that is not on the way to its path, and what it brings in
there has its default and is inside a record that was missing on the way. -/
theorem FieldType.holds_put_off (t : FieldType) {val val' : t.Val} {path path' : Path}
    {v : ColumnValue} (part : Part) (hfield : (t.field? path').isSome) (hoff : ¬ path <+: path')
    (hput : t.put val path' v = some val') :
    (t.Holds val path part → t.Holds val' path part) ∧
      (t.Holds val' path part → t.Holds val path part ∨
        (v ≠ .null ∧ part.2 = part.1.default ∧ t.MissingAbove val path path')) := by
  have hpath : path ≠ [] := by
    rintro rfl
    exact hoff List.nil_prefix
  cases t with
  | leaf s d => exact ⟨fun h => absurd h.1 hpath, fun h => absurd h.1 hpath⟩
  | optional inner filled =>
    cases hinner : inner.isLeaf with
    | true =>
      have hnothing (old : Option inner.Val) :
          ¬ (FieldType.optional inner filled).Holds old path part :=
        fun h => hpath (h.of_isLeaf hinner).1
      exact ⟨fun h => absurd h (hnothing val), fun h => absurd h (hnothing val')⟩
    | false =>
      rw [FieldType.isSome_field?_optional] at hfield
      have hcons := FieldType.ne_nil_of_not_isLeaf hinner hfield
      rcases FieldType.put_optional_below hcons hput with
        ⟨-, rfl, rfl⟩ | ⟨content, rfl, hcontent, hreached⟩
      · exact ⟨id, .inl⟩
      · obtain ⟨hkept, hmade⟩ := inner.holds_put_off part hfield hoff hcontent
        rw [FieldType.holds_optional_below hpath, FieldType.holds_optional_below hpath]
        constructor
        · rintro ⟨old, rfl, hold⟩
          exact ⟨content, rfl, hkept hold⟩
        · rintro ⟨_, ⟨⟩, hholds⟩
          cases val with
          | none =>
            -- The record was missing, so what is below it now is from its default or came with one.
            refine .inr ⟨hreached.resolve_right (by simp), ?_, [], ?_, List.nil_prefix,
              List.nil_prefix⟩
            · exact (hmade hholds).elim inner.eq_default_of_holds fun h => h.2.1
            · exact ⟨inner, filled, hinner, .inl ⟨rfl, rfl⟩⟩
          | some old =>
            rcases hmade hholds with hbefore | ⟨hv, hdefault, hmissing⟩
            · exact .inl ⟨old, rfl, hbefore⟩
            · exact .inr ⟨hv, hdefault, FieldType.MissingAbove.optional hmissing⟩
  | boxed inner =>
    rw [FieldType.isSome_field?_boxed] at hfield
    rw [FieldType.put_boxed] at hput
    rw [FieldType.holds_boxed_below hpath, FieldType.holds_boxed_below hpath]
    obtain ⟨hkept, hmade⟩ := inner.holds_put_off part hfield hoff hput
    refine ⟨hkept, fun hholds => (hmade hholds).imp_right ?_⟩
    rintro ⟨hv, hdefault, hmissing⟩
    exact ⟨hv, hdefault, FieldType.MissingAbove.boxed hmissing⟩
  | record fields =>
    cases path' with
    | nil => cases hfield
    | cons index' rest' =>
      cases path with
      | nil => exact absurd rfl hpath
      | cons index rest =>
        rw [FieldType.put_record] at hput
        have hrest (hindex : index = index') : ¬ rest <+: rest' :=
          fun hway => hoff (List.cons_prefix_cons.2 ⟨hindex, hway⟩)
        obtain ⟨hkept, hmade⟩ := fields.holds_put_off part hfield hrest hput
        refine ⟨hkept, fun hholds => (hmade hholds).imp_right ?_⟩
        rintro ⟨hv, hdefault, hmissing⟩
        exact ⟨hv, hdefault, FieldType.MissingAbove.record hmissing⟩

/-- A write keeps the parts beside its path, and any that come are defaults of a record it fills in.
-/
theorem Fields.holds_put_off (fs : Fields) {val val' : fs.Val} {index index' : Nat}
    {rest rest' : Path} {v : ColumnValue} (part : Part)
    (hfield : (fs.field? index' rest').isSome) (hoff : index = index' → ¬ rest <+: rest')
    (hput : fs.put val index' rest' v = some val') :
    (fs.Holds val index rest part → fs.Holds val' index rest part) ∧
      (fs.Holds val' index rest part → fs.Holds val index rest part ∨
        (v ≠ .null ∧ part.2 = part.1.default ∧
          fs.MissingAbove val index rest index' rest')) := by
  cases fs with
  | nil => cases hfield
  | cons name column skipped type others =>
    cases index' with
    | zero =>
      cases skipped with
      | true => cases hfield
      | false =>
        rw [Fields.put_zero] at hput
        obtain ⟨first, hfirst, rfl⟩ := Option.map_eq_some_iff.1 hput
        cases index with
        | zero =>
          obtain ⟨hkept, hmade⟩ := type.holds_put_off part hfield (hoff rfl) hfirst
          refine ⟨hkept, fun hholds => (hmade hholds).imp_right ?_⟩
          rintro ⟨hv, hdefault, hmissing⟩
          exact ⟨hv, hdefault, rfl, hmissing⟩
        | succ index => exact ⟨id, .inl⟩
    | succ index' =>
      rw [Fields.put_succ] at hput
      obtain ⟨later, hlater, rfl⟩ := Option.map_eq_some_iff.1 hput
      cases index with
      | zero => exact ⟨id, .inl⟩
      | succ index =>
        have hrest (hindex : index = index') : ¬ rest <+: rest' := hoff (congrArg (· + 1) hindex)
        obtain ⟨hkept, hmade⟩ := others.holds_put_off part hfield hrest hlater
        refine ⟨hkept, fun hholds => (hmade hholds).imp_right ?_⟩
        rintro ⟨hv, hdefault, hindex, hmissing⟩
        exact ⟨hv, hdefault, congrArg (· + 1) hindex, hmissing⟩

end

mutual

/-- On the way to a leaf there is no other leaf. -/
theorem FieldType.eq_of_prefix_of_holds (t : FieldType) {val : t.Val} {path path' : Path}
    {part : Part} (hfield : (t.field? path').isSome) (hway : path <+: path')
    (hleaf : part.1.isLeaf) (h : t.Holds val path part) : path = path' := by
  cases t with
  | leaf s d =>
    obtain rfl := FieldType.eq_nil_of_isLeaf (t := .leaf s d) rfl hfield
    exact h.1
  | optional inner filled =>
    rw [FieldType.isSome_field?_optional] at hfield
    rcases h with ⟨rfl, rfl⟩ | ⟨content, -, h⟩
    · exact (FieldType.eq_nil_of_isLeaf (t := inner) hleaf hfield).symm
    · exact inner.eq_of_prefix_of_holds hfield hway hleaf h
  | boxed inner =>
    rw [FieldType.isSome_field?_boxed] at hfield
    rcases h with ⟨rfl, rfl⟩ | h
    · exact (FieldType.eq_nil_of_isLeaf (t := inner) hleaf hfield).symm
    · exact inner.eq_of_prefix_of_holds hfield hway hleaf h
  | record fields =>
    cases path with
    | nil =>
      obtain rfl := h
      cases hleaf
    | cons index rest =>
      obtain ⟨after, rfl⟩ := hway
      have hrest := fields.eq_of_prefix_of_holds hfield (List.prefix_append rest after) hleaf h
      exact congrArg (index :: ·) hrest

/-- No leaf is held on the way to another one. -/
theorem Fields.eq_of_prefix_of_holds (fs : Fields) {val : fs.Val} {index : Nat}
    {rest rest' : Path} {part : Part} (hfield : (fs.field? index rest').isSome)
    (hway : rest <+: rest') (hleaf : part.1.isLeaf) (h : fs.Holds val index rest part) :
    rest = rest' := by
  cases fs with
  | nil => cases hfield
  | cons name column skipped type others =>
    cases index with
    | zero =>
      cases skipped with
      | true => cases hfield
      | false => exact type.eq_of_prefix_of_holds hfield hway hleaf h
    | succ index => exact others.eq_of_prefix_of_holds hfield hway hleaf h

end

/-- A write at another path leaves a leaf as it is, and every leaf that it brings in has its
default. -/
theorem FieldType.holds_put_other (t : FieldType) {val val' : t.Val} {path path' : Path}
    {v : ColumnValue} {part : Part}
    (hfield : (t.field? path').isSome) (hne : path ≠ path') (hleaf : part.1.isLeaf)
    (hput : t.put val path' v = some val') :
    (t.Holds val path part → t.Holds val' path part) ∧
      (t.Holds val' path part → t.Holds val path part ∨
        (v ≠ .null ∧ part.2 = part.1.default ∧ t.MissingAbove val path path')) := by
  have hoff {old : t.Val} (h : t.Holds old path part) : ¬ path <+: path' :=
    fun hway => hne (t.eq_of_prefix_of_holds hfield hway hleaf h)
  exact ⟨fun h => (t.holds_put_off part hfield (hoff h) hput).1 h,
    fun h => (t.holds_put_off part hfield (hoff h) hput).2 h⟩

/-- Whether an optional record at a path is there. -/
def FieldType.Present (t : FieldType) (val : t.Val) (path : Path) (inner : FieldType)
    (filled : Bool) : Prop :=
  ∃ content : inner.Val, t.Holds val path ⟨.optional inner filled, some content⟩

/-- Whether an optional record at a path from the field with an index is there. -/
def Fields.Present (fs : Fields) (val : fs.Val) (index : Nat) (path : Path) (inner : FieldType)
    (filled : Bool) : Prop :=
  ∃ content : inner.Val, fs.Holds val index path ⟨.optional inner filled, some content⟩

/-- A leaf has no record in it, before a write as after it. -/
theorem FieldType.present_put_leaf {t inner : FieldType} {filled : Bool} {val val' : t.Val}
    {path : Path} {v : ColumnValue} (hleaf : t.isLeaf) (hinner : inner.isLeaf = false) :
    (t.Present val path inner filled → t.Present val' path inner filled) ∧
      (t.Present val' path inner filled → t.Present val path inner filled ∨ v ≠ .null) := by
  have hnone (old : t.Val) : ¬ t.Present old path inner filled :=
    fun ⟨_, h⟩ => FieldType.not_holds_record hleaf hinner h
  exact ⟨fun h => absurd h (hnone val), fun h => absurd h (hnone val')⟩

mutual

/-- An optional record that is there stays there, and NULL brings in none. -/
theorem FieldType.present_put (t : FieldType) {val val' : t.Val} (path : Path) {path' : Path}
    {v : ColumnValue} {inner : FieldType} (filled : Bool) (hinner : inner.isLeaf = false)
    (hfield : (t.field? path').isSome) (hput : t.put val path' v = some val') :
    (t.Present val path inner filled → t.Present val' path inner filled) ∧
      (t.Present val' path inner filled → t.Present val path inner filled ∨ v ≠ .null) := by
  cases t with
  | leaf s d => exact FieldType.present_put_leaf (t := .leaf s d) rfl hinner
  | optional content filled' =>
    cases hcontent : content.isLeaf with
    | true => exact FieldType.present_put_leaf (t := .optional content filled') hcontent hinner
    | false =>
      rw [FieldType.isSome_field?_optional] at hfield
      have hcons := FieldType.ne_nil_of_not_isLeaf hcontent hfield
      rcases FieldType.put_optional_below hcons hput with
        ⟨-, rfl, rfl⟩ | ⟨new, rfl, hnew, hreached⟩
      · exact ⟨id, .inl⟩
      · obtain ⟨hkept, hmade⟩ := content.present_put path filled hinner hfield hnew
        -- The record that is asked for may be this one or one inside its content.
        constructor
        · rintro ⟨here, ⟨rfl, hpart⟩ | ⟨old, rfl, hbelow⟩⟩
          · cases hpart
            exact ⟨new, .inl ⟨rfl, rfl⟩⟩
          · obtain ⟨there, hthere⟩ := hkept ⟨here, hbelow⟩
            exact ⟨there, .inr ⟨new, rfl, hthere⟩⟩
        · rintro ⟨there, ⟨rfl, hpart⟩ | ⟨_, ⟨⟩, hbelow⟩⟩
          · cases hpart
            refine hreached.symm.imp_left ?_
            intro hsome
            obtain ⟨old, rfl⟩ := Option.isSome_iff_exists.1 hsome
            exact ⟨old, .inl ⟨rfl, rfl⟩⟩
          · cases val with
            | none => exact .inr (hreached.resolve_right (by simp))
            | some old =>
              refine (hmade ⟨there, hbelow⟩).imp_left ?_
              rintro ⟨here, hhere⟩
              exact ⟨here, .inr ⟨old, rfl, hhere⟩⟩
  | boxed content =>
    have hbehind (old : content.Val) : (FieldType.boxed content).Present old path inner filled ↔
        content.Present old path inner filled := by
      constructor
      · rintro ⟨here, ⟨-, hpart⟩ | hhere⟩
        · cases hpart
        · exact ⟨here, hhere⟩
      · rintro ⟨here, hhere⟩
        exact ⟨here, .inr hhere⟩
    rw [FieldType.isSome_field?_boxed] at hfield
    rw [FieldType.put_boxed] at hput
    rw [hbehind, hbehind]
    exact content.present_put path filled hinner hfield hput
  | record fields =>
    cases path' with
    | nil => cases hfield
    | cons index' rest' =>
      rw [FieldType.put_record] at hput
      cases path with
      | nil =>
        have hnone (old : fields.Val) :
            ¬ (FieldType.record fields).Present old [] inner filled := by
          rintro ⟨here, hpart⟩
          cases hpart
        exact ⟨fun h => absurd h (hnone val), fun h => absurd h (hnone val')⟩
      | cons index rest => exact fields.present_put index rest filled hinner hfield hput

/-- No write removes a record, and only values that are not NULL fill one in. -/
theorem Fields.present_put (fs : Fields) {val val' : fs.Val} (index : Nat) {index' : Nat}
    (rest : Path) {rest' : Path} {v : ColumnValue} {inner : FieldType} (filled : Bool)
    (hinner : inner.isLeaf = false) (hfield : (fs.field? index' rest').isSome)
    (hput : fs.put val index' rest' v = some val') :
    (fs.Present val index rest inner filled → fs.Present val' index rest inner filled) ∧
      (fs.Present val' index rest inner filled →
        fs.Present val index rest inner filled ∨ v ≠ .null) := by
  cases fs with
  | nil => cases hfield
  | cons name column skipped type others =>
    cases index' with
    | zero =>
      cases skipped with
      | true => cases hfield
      | false =>
        rw [Fields.put_zero] at hput
        obtain ⟨first, hfirst, rfl⟩ := Option.map_eq_some_iff.1 hput
        cases index with
        | zero => exact type.present_put rest filled hinner hfield hfirst
        | succ index => exact ⟨id, .inl⟩
    | succ index' =>
      rw [Fields.put_succ] at hput
      obtain ⟨later, hlater, rfl⟩ := Option.map_eq_some_iff.1 hput
      cases index with
      | zero => exact ⟨id, .inl⟩
      | succ index => exact others.present_put index rest filled hinner hfield hlater

end

mutual

/-- The way to a leaf is not open where a record on it is missing. -/
theorem FieldType.not_open_of_missingAt (t : FieldType) {val : t.Val} {above path : Path}
    (hfield : (t.field? path).isSome) (hway : above <+: path) (hmissing : t.MissingAt val above) :
    ¬ t.Open val path := by
  obtain ⟨inner, filled, hinner, hholds⟩ := hmissing
  cases t with
  | leaf s d => exact absurd hholds (FieldType.not_holds_record (t := .leaf s d) rfl hinner)
  | optional content filled' =>
    cases hcontent : content.isLeaf with
    | true =>
      exact absurd hholds
        (FieldType.not_holds_record (t := .optional content filled') hcontent hinner)
    | false =>
      rw [FieldType.isSome_field?_optional] at hfield
      obtain ⟨index, rest, rfl⟩ :=
        List.exists_cons_of_ne_nil (FieldType.ne_nil_of_not_isLeaf hcontent hfield)
      rcases hholds with ⟨-, hpart⟩ | ⟨old, rfl, hold⟩
      · cases hpart
        exact id
      · exact content.not_open_of_missingAt hfield hway ⟨inner, filled, hinner, hold⟩
  | boxed content =>
    rw [FieldType.isSome_field?_boxed] at hfield
    rcases hholds with ⟨-, hpart⟩ | hold
    · cases hpart
    · exact content.not_open_of_missingAt hfield hway ⟨inner, filled, hinner, hold⟩
  | record fields =>
    cases above with
    | nil => cases hholds
    | cons index rest =>
      obtain ⟨after, rfl⟩ := hway
      exact fields.not_open_of_missingAt hfield (List.prefix_append rest after)
        ⟨inner, filled, hinner, hholds⟩

/-- A missing record on the way closes a path. -/
theorem Fields.not_open_of_missingAt (fs : Fields) {val : fs.Val} {index : Nat} {above rest : Path}
    (hfield : (fs.field? index rest).isSome) (hway : above <+: rest)
    (hmissing : fs.MissingAt val index above) : ¬ fs.Open val index rest := by
  cases fs with
  | nil => cases hfield
  | cons name column skipped type others =>
    cases index with
    | zero =>
      cases skipped with
      | true => cases hfield
      | false => exact type.not_open_of_missingAt hfield hway hmissing
    | succ index => exact others.not_open_of_missingAt hfield hway hmissing

end

namespace Fields

/-- What a successful write of a value at a path makes of a record `r`: in `r'` the leaf at the path
is written, missing records on the way to it are filled in, and everything else is as it was. -/
structure ChangedAt (fs : Fields) (path : Path) (v : ColumnValue) (r r' : fs.Val) : Prop where
  /-- A value that is not NULL is found at the path, as the leaf there converts it. -/
  value : v ≠ .null → ∃ s d x, s.ofColumn v = .ok x ∧
    (FieldType.record fs).Holds r' path ⟨.leaf s d, x⟩
  /-- Every leaf at another path keeps its content. -/
  kept : ∀ path' part, path' ≠ path → part.1.isLeaf →
    (FieldType.record fs).Holds r path' part → (FieldType.record fs).Holds r' path' part
  /-- Every optional record that is there stays there. -/
  stays : ∀ path' inner filled, inner.isLeaf = false →
    (FieldType.record fs).Present r path' inner filled →
      (FieldType.record fs).Present r' path' inner filled
  /-- An optional record comes only with a value that is not NULL, and only on the way to the path;
  one that its type fills by default comes also with a record that was missing on that way. -/
  comes : ∀ path' inner filled, inner.isLeaf = false →
    (FieldType.record fs).Present r' path' inner filled →
      (FieldType.record fs).Present r path' inner filled ∨ v ≠ .null ∧
        (path' <+: path ∨ filled = true ∧ (FieldType.record fs).MissingAbove r path' path)
  /-- A leaf that comes at another path has its default, and comes with a record that was missing on
  the way. -/
  fresh : ∀ path' part, path' ≠ path → part.1.isLeaf →
    (FieldType.record fs).Holds r' path' part → (FieldType.record fs).Holds r path' part ∨
      v ≠ .null ∧ part.2 = part.1.default ∧ (FieldType.record fs).MissingAbove r path' path
  /-- NULL changes nothing where a record on the way is missing. -/
  dropped : v = .null → ∀ above, above <+: path → (FieldType.record fs).MissingAt r above → r' = r

/-- A successful write at the path of a leaf touches nothing else, whatever the record holds. -/
theorem write_changes_path_only (fs : Fields) {r r' : fs.Val} {path : Path} {v : ColumnValue}
    (hpath : path ∈ (fs.leaves 0).map Prod.snd) (h : fs.scanField r path v = (r', .ok ())) :
    fs.ChangedAt path v r r' := by
  have hfield := (fs.mem_leaves_iff path).1 hpath
  have hput : (FieldType.record fs).put r path v = some r' := congrArg written h
  constructor
  · intro hv
    exact (FieldType.record fs).holds_put hfield hv hput
  · intro path' part hne hleaf
    exact ((FieldType.record fs).holds_put_other hfield hne hleaf hput).1
  · intro path' inner filled hinner
    exact ((FieldType.record fs).present_put path' filled hinner hfield hput).1
  · intro path' inner filled hinner hpresent
    by_cases hway : path' <+: path
    · have hold := ((FieldType.record fs).present_put path' filled hinner hfield hput).2 hpresent
      exact hold.imp_right fun hv => ⟨hv, .inl hway⟩
    · -- Off the way there is only what was there and what came as a default.
      obtain ⟨content, hholds⟩ := hpresent
      rcases ((FieldType.record fs).holds_put_off _ hfield hway hput).2 hholds with
        hbefore | ⟨hv, hdefault, hmissing⟩
      · exact .inl ⟨content, hbefore⟩
      · cases filled with
        | false => cases hdefault
        | true => exact .inr ⟨hv, .inr ⟨rfl, hmissing⟩⟩
  · intro path' part hne hleaf
    exact ((FieldType.record fs).holds_put_other hfield hne hleaf hput).2
  · intro hnull above hway hmissing
    subst hnull
    have hclosed := (FieldType.record fs).not_open_of_missingAt hfield hway hmissing
    have hsame := (FieldType.record fs).put_null_of_not_open hfield hclosed
    exact Option.some.inj (hput.symm.trans hsame)

/-- A number for the innermost of three levels brings in both optional records above it, with
defaults beside it; NULL for it is dropped by the first of them, and what is there is kept. -/
theorem write_changes_path_only_levels :
    let five : I64 := ⟨5, by decide, by decide⟩
    let gone : Samples.level1.Val := (some five, none, ())
    let here : Samples.level1.Val :=
      (some five, some (IntKind.i64.zero, "", some (none, .of five, ()), ()), ())
    [1, 2, 1] ∈ (Samples.level1.leaves 0).map Prod.snd ∧
      Samples.level1.scanField gone [1, 2, 1] (.int five) = (here, .ok ()) ∧
      Samples.level1.ChangedAt [1, 2, 1] (.int five) gone here ∧
      Samples.level1.scanField gone [1, 2, 1] .null = (gone, .ok ()) ∧
      Samples.level1.ChangedAt [1, 2, 1] .null gone gone := by
  intro five gone here
  have hpath : [1, 2, 1] ∈ (Samples.level1.leaves 0).map Prod.snd := by decide
  have hvalue : Samples.level1.scanField gone [1, 2, 1] (.int five) = (here, .ok ()) := rfl
  have hnull : Samples.level1.scanField gone [1, 2, 1] .null = (gone, .ok ()) := rfl
  exact ⟨hpath, hvalue, write_changes_path_only _ hpath hvalue, hnull,
    write_changes_path_only _ hpath hnull⟩

end Fields

end SqlBinding.Record
