import Mathlib.Data.List.Forall2
import SqlBinding.Literal
import SqlBinding.Proofs.Outcome

/-!
# Lists of arguments

The elements of a list are held to one kind as they stand, so a value with a validity flag counts as
such, whatever value the flag is on. Its literal, on the other hand, is that of the value under all
its flags. So what a list is written as is one level of one kind of literals exactly if the flags in
it hide nothing that could not have stood there openly.
-/

set_option autoImplicit false

namespace SqlBinding.Argument

/-- The argument under all validity flags. -/
def bare : Argument → Argument
  | nullable inner _ => inner.bare
  | a => a

/-- Whether an argument is written as `NULL`, by itself or because of a validity flag. -/
def isNull (d : Dialect) : Argument → Bool
  | null => true
  | nullable inner valid => !isPresent d.nullablePolicy inner valid || inner.isNull d
  | _ => false

/-- The kinds that cannot stand in a list. -/
def Kind.IsCompound (k : Kind) : Prop := k = .list ∨ k = .array

/-- Whether elements are of one kind as they stand, which is none that cannot stand in a list;
`NULL` is an element of any kind. -/
def OfOneKind (kind : Kind) (items : List Argument) : Prop :=
  ¬ kind.IsCompound ∧ ∀ item ∈ items, item.kind = .null ∨ item.kind = kind

/-- Whether elements are flat and of one kind under their validity flags. -/
def Homogeneous (d : Dialect) (items : List Argument) : Prop :=
  (∀ item ∈ items, ¬ item.bare.kind.IsCompound) ∧
    ∃ kind, ∀ item ∈ items, item.isNull d ∨ item.bare.kind = kind

variable {d : Dialect}

/-- An argument that has no validity flag is bare already. -/
theorem bare_of_kind_ne_nullable {a : Argument} (h : a.kind ≠ .nullable) : a.bare = a := by
  cases a with
  | nullable inner valid => exact absurd rfl h
  | null | bool | int | uint | float32 | float64 | text | bytes | timestamp | list | array => rfl

/-- The argument without a value is written as NULL. -/
theorem isNull_of_kind_null {a : Argument} (h : a.kind = .null) : a.isNull d := by
  cases a with
  | null => rfl
  | nullable | bool | int | uint | float32 | float64 | text | bytes | timestamp | list | array =>
    cases h

/-- An argument is written as `NULL` or as the argument under its validity flags. -/
theorem literal_eq (a : Argument) :
    a.literal d = if a.isNull d then .ok nullLiteral else a.bare.literal d := by
  fun_induction bare a with
  | case1 inner valid ih =>
    rw [literal, isNull]
    cases isPresent d.nullablePolicy inner valid with
    | true => simpa using ih
    | false => simp
  | case2 a hbare =>
    cases a with
    | nullable inner valid => exact absurd rfl (hbare inner valid)
    | null => simp [literal, isNull]
    | bool | int | uint | float32 | float64 | text | bytes | timestamp | list | array =>
      simp [isNull]

/-- The next element is held to the kind of those before it. -/
theorem listKind_eq_ok_iff {sofar next : Option Kind} {item : Argument} :
    listKind sofar item = .ok next ↔
      (item.kind = .null ∧ next = sofar) ∨
        (item.kind ≠ .null ∧ ¬ item.kind.IsCompound ∧ (∀ kind ∈ sofar, kind = item.kind) ∧
          next = some item.kind) := by
  unfold listKind Kind.IsCompound
  cases hkind : item.kind with
  | null => simp [eq_comm]
  | list | array => simp
  | bool | int | uint | float32 | float64 | text | bytes | timestamp | nullable =>
    cases sofar with
    | none => simp [eq_comm]
    | some first =>
      by_cases hfirst : first = item.kind
      · simp [hfirst, hkind, eq_comm]
      · rw [hkind] at hfirst
        simp [hfirst]

/-- Elements are of one kind with those before them if the first is held to it and the others are of
one kind with those before them and the first. -/
theorem exists_ofOneKind_cons_iff {sofar : Option Kind} {item : Argument} {items : List Argument} :
    (∃ kind, (∀ first ∈ sofar, first = kind) ∧ OfOneKind kind (item :: items)) ↔
      ∃ next, listKind sofar item = .ok next ∧
        ∃ kind, (∀ first ∈ next, first = kind) ∧ OfOneKind kind items := by
  simp only [OfOneKind, List.forall_mem_cons, listKind_eq_ok_iff]
  constructor
  · rintro ⟨kind, hfirst, hcompound, hitem, hitems⟩
    by_cases hnull : item.kind = .null
    · exact ⟨sofar, .inl ⟨hnull, rfl⟩, kind, hfirst, hcompound, hitems⟩
    · obtain rfl : item.kind = kind := hitem.resolve_left hnull
      exact ⟨some item.kind, .inr ⟨hnull, hcompound, hfirst, rfl⟩, item.kind, by simp, hcompound,
        hitems⟩
  · rintro ⟨next, ⟨hnull, rfl⟩ | ⟨-, -, hfirst, rfl⟩, kind, hnext, hcompound, hitems⟩
    · exact ⟨kind, hnext, hcompound, .inl hnull, hitems⟩
    · obtain rfl : item.kind = kind := hnext item.kind rfl
      exact ⟨item.kind, hfirst, hcompound, .inr rfl, hitems⟩

/-- Elements have literals behind others of a kind so far exactly if they are of one kind with those
and each has a literal by itself. -/
theorem literals_eq_ok_iff {items : List Argument} {sofar : Option Kind} {texts : List (List Char)}
    (hsofar : ∀ kind ∈ sofar, ¬ kind.IsCompound) :
    literals d sofar items = .ok texts ↔
      (∃ kind, (∀ first ∈ sofar, first = kind) ∧ OfOneKind kind items) ∧
        List.Forall₂ (fun item text => item.literal d = .ok text) items texts := by
  induction items generalizing sofar texts with
  | nil =>
    have hkind : ∃ kind, (∀ first ∈ sofar, first = kind) ∧ OfOneKind kind [] := by
      cases sofar with
      | none => exact ⟨.null, by simp, by simp [Kind.IsCompound], by simp⟩
      | some first => exact ⟨first, by simp, hsofar first rfl, by simp⟩
    rw [literals, List.forall₂_nil_left_iff]
    constructor
    · intro h
      cases h
      exact ⟨hkind, rfl⟩
    · rintro ⟨-, rfl⟩
      rfl
  | cons item items ih =>
    rw [exists_ofOneKind_cons_iff, List.forall₂_cons_left_iff, literals]
    cases hkind : listKind sofar item with
    | error e => simp
    | ok next =>
      have hnext : ∀ kind ∈ next, ¬ kind.IsCompound := by
        rcases listKind_eq_ok_iff.1 hkind with ⟨-, rfl⟩ | ⟨-, hcompound, -, rfl⟩
        · exact hsofar
        · simpa using hcompound
      cases item.literal d with
      | error e => simp
      | ok entry =>
        simp only [Outcome.map_eq_ok_iff, ih hnext]
        constructor
        · rintro ⟨rest, ⟨hkinds, htexts⟩, rfl⟩
          exact ⟨⟨next, rfl, hkinds⟩, entry, rest, rfl, htexts, rfl⟩
        · rintro ⟨⟨_, hsame, hkinds⟩, _, rest, hentry, htexts, rfl⟩
          cases hsame
          cases hentry
          exact ⟨rest, ⟨hkinds, htexts⟩, rfl⟩

/-- A list has a literal exactly if it has elements, these are of one kind as they stand, and each
of them has a literal. -/
theorem literal_list_eq_ok_iff {items : List Argument} {out : List Char} :
    (list items).literal d = .ok out ↔
      items ≠ [] ∧ (∃ kind, OfOneKind kind items) ∧
        ∃ texts, List.Forall₂ (fun item text => item.literal d = .ok text) items texts ∧
          out = parenthesized texts := by
  cases items with
  | nil => simp [literal]
  | cons item items =>
    have hnone : ∀ kind ∈ (none : Option Kind), ¬ kind.IsCompound := by simp
    have hkinds : (∃ kind, (∀ first ∈ (none : Option Kind), first = kind) ∧
        OfOneKind kind (item :: items)) ↔ ∃ kind, OfOneKind kind (item :: items) := by simp
    rw [literal, Outcome.map_eq_ok_iff]
    simp only [literals_eq_ok_iff hnone, hkinds]
    constructor
    · rintro ⟨texts, ⟨hkind, htexts⟩, rfl⟩
      exact ⟨List.cons_ne_nil _ _, hkind, texts, htexts, rfl⟩
    · rintro ⟨-, hkind, texts, htexts, rfl⟩
      exact ⟨texts, ⟨hkind, htexts⟩, rfl⟩

/-- Elements that could stand in a list one by one are refused behind one of another kind. -/
theorem literals_mixed {items : List Argument} {first : Kind}
    (hitems : ∀ item ∈ items, item.kind ≠ .null ∧ ¬ item.kind.IsCompound ∧
      ∃ text, item.literal d = .ok text)
    (hmixed : ∃ item ∈ items, item.kind ≠ first) :
    ∃ other, first ≠ other ∧
      literals d (some first) items = .error (.argumentType (.mixedList first other)) := by
  induction items with
  | nil => simp at hmixed
  | cons item items ih =>
    obtain ⟨⟨hnull, hcompound, text, htext⟩, hitems⟩ := List.forall_mem_cons.1 hitems
    -- The element of another kind that is met first is the one that the refusal names.
    by_cases hkind : item.kind = first
    · have hrest : ∃ item ∈ items, item.kind ≠ first := by
        obtain ⟨other, hmem, hother⟩ := hmixed
        rcases List.mem_cons.1 hmem with rfl | hmem
        · exact absurd hkind hother
        · exact ⟨other, hmem, hother⟩
      obtain ⟨other, hother, hliterals⟩ := ih hitems hrest
      have hnext : listKind (some first) item = .ok (some first) :=
        listKind_eq_ok_iff.2 (.inr ⟨hnull, hcompound, by simp [hkind], by rw [hkind]⟩)
      refine ⟨other, hother, ?_⟩
      rw [literals, hnext]
      simp only [htext, hliterals, Except.map]
    · have hne : first ≠ item.kind := fun h => hkind h.symm
      have hnext : listKind (some first) item =
          .error (.argumentType (.mixedList first item.kind)) := by
        unfold listKind
        cases hitem : item.kind with
        | null => exact absurd hitem hnull
        | list => exact absurd (.inl hitem) hcompound
        | array => exact absurd (.inr hitem) hcompound
        | bool | int | uint | float32 | float64 | text | bytes | timestamp | nullable =>
          rw [hitem] at hne
          exact if_neg hne
      exact ⟨item.kind, hne, by rw [literals, hnext]⟩

/-- A list of elements that could stand in it one by one is refused if they are of several kinds. -/
theorem literal_list_mixed {items : List Argument}
    (hitems : ∀ item ∈ items, item.kind ≠ .null ∧ ¬ item.kind.IsCompound ∧
      ∃ text, item.literal d = .ok text)
    (hmixed : ¬ ∃ kind, ∀ item ∈ items, item.kind = kind) :
    ∃ first other, first ≠ other ∧
      (list items).literal d = .error (.argumentType (.mixedList first other)) := by
  cases items with
  | nil => exact absurd ⟨.null, by simp⟩ hmixed
  | cons item items =>
    obtain ⟨⟨hnull, hcompound, text, htext⟩, hitems⟩ := List.forall_mem_cons.1 hitems
    have hrest : ∃ other ∈ items, other.kind ≠ item.kind := by
      by_contra hsame
      refine hmixed ⟨item.kind, List.forall_mem_cons.2 ⟨rfl, fun other hother => ?_⟩⟩
      by_contra hkind
      exact hsame ⟨other, hother, hkind⟩
    have hnext : listKind none item = .ok (some item.kind) :=
      listKind_eq_ok_iff.2 (.inr ⟨hnull, hcompound, nofun, rfl⟩)
    obtain ⟨other, hother, hliterals⟩ := literals_mixed hitems hrest
    refine ⟨item.kind, other, hother, ?_⟩
    rw [literal, literals, hnext]
    simp only [htext, hliterals, Except.map]

/-- Whether the validity flags among elements hide nothing that could not stand there openly:
neither a list nor an array, and under those that are not written as `NULL`, one kind. -/
def HidesNothing (d : Dialect) (items : List Argument) : Prop :=
  (∀ item ∈ items, item.kind = .nullable → ¬ item.bare.kind.IsCompound) ∧
    ∃ kind, ∀ item ∈ items, item.kind = .nullable → item.isNull d ∨ item.bare.kind = kind

/-- Elements of one kind as they stand are homogeneous if their validity flags hide nothing. -/
theorem OfOneKind.homogeneous_iff {kind : Kind} {items : List Argument} (h : OfOneKind kind items) :
    Homogeneous d items ↔ HidesNothing d items := by
  obtain ⟨hcompound, hkinds⟩ := h
  constructor
  · rintro ⟨hflat, under, hunder⟩
    exact ⟨fun item hitem _ => hflat item hitem, under, fun item hitem _ => hunder item hitem⟩
  · rintro ⟨hflat, under, hunder⟩
    refine ⟨fun item hitem => ?_, ?_⟩
    · by_cases hnullable : item.kind = .nullable
      · exact hflat item hitem hnullable
      · rw [bare_of_kind_ne_nullable hnullable]
        rcases hkinds item hitem with hnull | hkind
        · simp [hnull, Kind.IsCompound]
        · rwa [hkind]
    · by_cases hnullable : kind = .nullable
      · refine ⟨under, fun item hitem => ?_⟩
        rcases hkinds item hitem with hnull | hkind
        · exact .inl (isNull_of_kind_null hnull)
        · exact hunder item hitem (hkind.trans hnullable)
      · refine ⟨kind, fun item hitem => ?_⟩
        rcases hkinds item hitem with hnull | hkind
        · exact .inl (isNull_of_kind_null hnull)
        · rw [bare_of_kind_ne_nullable (hkind ▸ hnullable)]
          exact .inr hkind

/-- A list is accepted exactly if it has elements, all but `NULL` are of one kind as they stand,
which is neither list nor array, and each has a literal; it is written as one level of the literals
of its elements under their validity flags. Such a list is flat and of one kind under its validity
flags exactly if these hide nothing that could not stand there openly, and so is any list without
them. -/
theorem list_homogeneous_iff (d : Dialect) (items : List Argument) (out : List Char) :
    ((list items).literal d = .ok out ↔
      items ≠ [] ∧ (∃ kind, OfOneKind kind items) ∧
        ∃ texts, List.Forall₂ (fun item text =>
            (if item.isNull d then .ok nullLiteral else item.bare.literal d) = .ok text) items texts ∧
          out = parenthesized texts) ∧
    ((list items).literal d = .ok out → (Homogeneous d items ↔ HidesNothing d items)) ∧
    ((list items).literal d = .ok out → (∀ item ∈ items, item.kind ≠ .nullable) →
      Homogeneous d items) := by
  have hone (h : (list items).literal d = .ok out) :
      Homogeneous d items ↔ HidesNothing d items := by
    obtain ⟨-, ⟨kind, hkind⟩, -⟩ := literal_list_eq_ok_iff.1 h
    exact hkind.homogeneous_iff
  refine ⟨?_, hone, ?_⟩
  · simp only [← literal_eq]
    exact literal_list_eq_ok_iff
  · intro h hopen
    apply (hone h).2
    exact ⟨fun item hitem hflag => absurd hflag (hopen item hitem),
      .null, fun item hitem hflag => absurd hflag (hopen item hitem)⟩

/-- Numbers under flags, next to a `NULL` and a text that is not valid. -/
theorem list_homogeneous_flags :
    let items : List Argument :=
      [nullable (int ⟨1, by decide, by decide⟩) true, null, nullable (text "a") false]
    (list items).literal .postgres = .ok "(1,NULL,NULL)".toList ∧ Homogeneous .postgres items ∧
      (list [null, bool true]).literal .mySql = .ok "(NULL,1)".toList ∧
      (∀ item ∈ [null, bool true], item.kind ≠ .nullable) ∧
      Homogeneous .mySql [null, bool true] := by
  intro items
  have hitems : (list items).literal .postgres = .ok "(1,NULL,NULL)".toList := by rfl
  have hplain : (list [null, bool true]).literal .mySql = .ok "(NULL,1)".toList := by rfl
  have hopen : ∀ item ∈ [null, bool true], item.kind ≠ .nullable := by simp [kind]
  refine ⟨hitems, ?_, hplain, hopen, (list_homogeneous_iff .mySql _ _).2.2 hplain hopen⟩
  apply ((list_homogeneous_iff .postgres items _).2.1 hitems).2
  constructor
  · simp [items, bare, kind, Kind.IsCompound]
  · exact ⟨.int, by simp [items, bare, kind, isNull, isPresent, Dialect.nullablePolicy]⟩

/-- A list under a validity flag is accepted inside a list, and written as a second level. -/
theorem list_hides_list :
    ¬ ∀ (d : Dialect) (items : List Argument) (out : List Char),
      (list items).literal d = .ok out → items ≠ [] ∧ Homogeneous d items := by
  intro h
  have haccepted : (list [nullable (list [int ⟨1, by decide, by decide⟩]) true]).literal .sqlite =
      .ok "((1))".toList := by rfl
  obtain ⟨-, hflat, -⟩ := h _ _ _ haccepted
  exact hflat _ List.mem_cons_self (.inl rfl)

end SqlBinding.Argument
