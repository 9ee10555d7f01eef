import Mathlib.Algebra.Group.Int.Defs
import SqlBinding.CommandLine.Arguments
import SqlBinding.Proofs.Json.Lists
import SqlBinding.Proofs.Literal.Lists
import SqlBinding.Proofs.Numeric.DecimalText
import SqlBinding.Proofs.Statement.Substitution

/-!
# Lists of integers on the command line

An integer in an argument is a signed number of 64 bits if that holds it, and an unsigned one
otherwise. Each is written as its decimal text, but a list is held to one kind, so the list of an
`IN` clause is written exactly if all its integers are signed numbers or all are unsigned ones.
-/

set_option autoImplicit false

namespace SqlBinding.CommandLine

open Numeric

/-- The kind of the argument of an integer. -/
def integerKind (n : Int) : Argument.Kind := if n < 2 ^ 63 then .int else .uint

/-- Whether an argument is an integer, as the kind of number that the integer is given as. -/
def StandsFor (n : Int) (a : Argument) : Prop :=
  a.kind = integerKind n ∧ ∀ d, a.literal d = .ok (Decimal.ofInt n)

/-- The range of the signed integers. -/
theorem holds_i64_iff {n : Int} : IntKind.i64.Holds n ↔ -2 ^ 63 ≤ n ∧ n < 2 ^ 63 := by
  have hmin : IntKind.i64.minMagnitude = 2 ^ 63 := rfl
  have hmax : IntKind.i64.maxNat = 2 ^ 63 - 1 := rfl
  unfold IntKind.Holds
  omega

/-- The range of the unsigned integers. -/
theorem holds_u64_iff {n : Int} : IntKind.u64.Holds n ↔ 0 ≤ n ∧ n < 2 ^ 64 := by
  have hmin : IntKind.u64.minMagnitude = 0 := rfl
  have hmax : IntKind.u64.maxNat = 2 ^ 64 - 1 := rfl
  unfold IntKind.Holds
  omega

/-- An integer that 64 bits hold is worth a number, whose argument stands for it. -/
theorem exists_argument {n : Int} (hmin : -2 ^ 63 ≤ n) (hmax : n < 2 ^ 64) :
    ∃ w a, Json.Number.ofInt? n = some w ∧ argument (.number w) = .ok a ∧ StandsFor n a := by
  by_cases hsmall : n < 2 ^ 63
  · have hholds : IntKind.i64.Holds n := holds_i64_iff.2 ⟨hmin, hsmall⟩
    refine ⟨.signed ⟨n, hholds.1, hholds.2⟩, .int ⟨n, hholds.1, hholds.2⟩, ?_, ?_, ?_, ?_⟩
    · rw [Json.Number.ofInt?, IntKind.ofInt?_of_holds hholds]
    · rw [argument]
    · rw [integerKind, if_pos hsmall]
      rfl
    · intro d
      rw [Argument.literal]
      rfl
  · have hout : ¬ IntKind.i64.Holds n := fun h => hsmall (holds_i64_iff.1 h).2
    have hholds : IntKind.u64.Holds n := holds_u64_iff.2 ⟨by omega, hmax⟩
    refine ⟨.unsigned ⟨n, hholds.1, hholds.2⟩, .uint ⟨n, hholds.1, hholds.2⟩, ?_, ?_, ?_, ?_⟩
    · rw [Json.Number.ofInt?, IntKind.ofInt?_of_not_holds hout, IntKind.ofInt?_of_holds hholds]
      rfl
    · rw [argument]
    · rw [integerKind, if_neg hsmall]
      rfl
    · intro d
      rw [Argument.literal]
      rfl

/-- Integers that 64 bits hold are worth numbers, whose arguments stand for them. -/
theorem exists_arguments {ns : List Int} (hrange : ∀ n ∈ ns, -2 ^ 63 ≤ n ∧ n < 2 ^ 64) :
    ∃ ws items, List.Forall₂ (fun n w => Json.Number.ofInt? n = some w) ns ws ∧
      arguments (ws.map .number) = .ok items ∧ List.Forall₂ StandsFor ns items := by
  induction ns with
  | nil => exact ⟨[], [], .nil, rfl, .nil⟩
  | cons n ns ih =>
    obtain ⟨hn, hns⟩ := List.forall_mem_cons.1 hrange
    obtain ⟨w, a, hw, ha, hstands⟩ := exists_argument hn.1 hn.2
    obtain ⟨ws, items, hws, hitems, hall⟩ := ih hns
    refine ⟨w :: ws, a :: items, .cons hw hws, ?_, .cons hstands hall⟩
    rw [List.map_cons, arguments, ha, hitems]
    rfl

/-- A list of integers as the only argument is read as a list of arguments that stand for them. -/
theorem exists_parseArguments {ns : List Int} {inner text : List Char} (hne : ns ≠ [])
    (hrange : ∀ n ∈ ns, -2 ^ 63 ≤ n ∧ n < 2 ^ 64) (hinner : Json.IntegerListText ns inner)
    (htext : Json.ListText [inner] text) :
    ∃ items, parseArguments text = .ok [.list items] ∧ List.Forall₂ StandsFor ns items := by
  obtain ⟨ws, items, hws, hitems, hall⟩ := exists_arguments hrange
  have hparse := Json.Value.parse_integerList hinner htext hne hws
  refine ⟨items, ?_, hall⟩
  rw [parseArguments, hparse]
  simp [arguments, argument, hitems, Except.map]

/-! ### The list of an `IN` clause -/

/-- A bare placeholder is replaced by the literal of the one argument. -/
theorem format_placeholder (d : Dialect) (a : Argument) :
    Statement.format d ['?'] [a] = a.literal d := by
  have hfill := Statement.fill_placeholder (d := d) [] a []
  rw [Statement.format_eq_fill rfl]
  refine hfill.trans ?_
  cases a.literal d with
  | error e => rfl
  | ok text => exact congrArg Except.ok (List.append_nil text)

/-- Whether all integers are given as signed numbers, or all as unsigned ones. -/
def OfOneSign (ns : List Int) : Prop := (∀ n ∈ ns, n < 2 ^ 63) ∨ ∀ n ∈ ns, 2 ^ 63 ≤ n

/-- An integer becomes a signed argument exactly if a signed one holds it. -/
theorem integerKind_eq_int_iff {n : Int} : integerKind n = .int ↔ n < 2 ^ 63 := by
  unfold integerKind
  split <;> simp_all

/-- An integer becomes an unsigned argument exactly if it is too great for a signed one. -/
theorem integerKind_eq_uint_iff {n : Int} : integerKind n = .uint ↔ 2 ^ 63 ≤ n := by
  unfold integerKind
  split <;> simp_all

/-- Arguments are of one kind exactly if the integers that they stand for are. -/
theorem forall_kind_iff {ns : List Int} {items : List Argument}
    (h : List.Forall₂ StandsFor ns items) (kind : Argument.Kind) :
    (∀ item ∈ items, item.kind = kind) ↔ ∀ n ∈ ns, integerKind n = kind := by
  induction h with
  | nil => simp
  | cons hstands _ ih => rw [List.forall_mem_cons, List.forall_mem_cons, ih, hstands.1]

/-- Integers are of one sign exactly if they become arguments of one kind. -/
theorem ofOneSign_iff {ns : List Int} (hne : ns ≠ []) :
    OfOneSign ns ↔ ∃ kind, ∀ n ∈ ns, integerKind n = kind := by
  constructor
  · rintro (hsmall | hgreat)
    · exact ⟨.int, fun n hn => integerKind_eq_int_iff.2 (hsmall n hn)⟩
    · exact ⟨.uint, fun n hn => integerKind_eq_uint_iff.2 (hgreat n hn)⟩
  · rintro ⟨kind, hkind⟩
    obtain ⟨first, hfirst⟩ := List.exists_mem_of_ne_nil ns hne
    by_cases hsmall : first < 2 ^ 63
    · obtain rfl : .int = kind := (integerKind_eq_int_iff.2 hsmall).symm.trans (hkind first hfirst)
      exact .inl fun n hn => integerKind_eq_int_iff.1 (hkind n hn)
    · obtain rfl : .uint = kind :=
        (integerKind_eq_uint_iff.2 (by omega)).symm.trans (hkind first hfirst)
      exact .inr fun n hn => integerKind_eq_uint_iff.1 (hkind n hn)

/-- Arguments that stand for integers have the decimal texts of these as their literals. -/
theorem forall₂_literal {ns : List Int} {items : List Argument}
    (h : List.Forall₂ StandsFor ns items) (d : Dialect) :
    List.Forall₂ (fun item text => item.literal d = .ok text) items (ns.map Decimal.ofInt) := by
  induction h with
  | nil => exact .nil
  | cons hstands _ ih => exact .cons (hstands.2 d) ih

/-- What stands for an integer can stand in a list. -/
theorem StandsFor.element {n : Int} {a : Argument} (h : StandsFor n a) (d : Dialect) :
    a.kind ≠ .null ∧ ¬ a.kind.IsCompound ∧ ∃ text, a.literal d = .ok text := by
  have hkind : a.kind = .int ∨ a.kind = .uint := by
    rw [h.1, integerKind]
    split
    · exact .inl rfl
    · exact .inr rfl
  refine ⟨?_, ?_, Decimal.ofInt n, h.2 d⟩
  · rintro hnull
    simp [hnull] at hkind
  · rintro (hlist | harray)
    · simp [hlist] at hkind
    · simp [harray] at hkind

/-- Arguments that stand for integers may be elements of a list, and each has a literal. -/
theorem forall_element {ns : List Int} {items : List Argument}
    (h : List.Forall₂ StandsFor ns items) (d : Dialect) :
    ∀ a ∈ items, a.kind ≠ .null ∧ ¬ a.kind.IsCompound ∧ ∃ text, a.literal d = .ok text := by
  induction h with
  | nil => simp
  | cons hstands _ ih => exact List.forall_mem_cons.2 ⟨hstands.element d, ih⟩

/-- Integers of one sign are written as a list. -/
theorem literal_ofOneSign {ns : List Int} {items : List Argument}
    (h : List.Forall₂ StandsFor ns items) (hne : ns ≠ []) (hsign : OfOneSign ns) (d : Dialect) :
    (Argument.list items).literal d = .ok (Argument.parenthesized (ns.map Decimal.ofInt)) := by
  obtain ⟨kind, hkind⟩ := (ofOneSign_iff hne).1 hsign
  have hitems : ∀ a ∈ items, a.kind = kind := (forall_kind_iff h kind).2 hkind
  have hitemsNe : items ≠ [] := by
    rintro rfl
    cases h
    exact hne rfl
  obtain ⟨first, hfirst⟩ := List.exists_mem_of_ne_nil items hitemsNe
  have hcompound : ¬ kind.IsCompound := hitems first hfirst ▸ (forall_element h d first hfirst).2.1
  apply Argument.literal_list_eq_ok_iff.2
  exact ⟨hitemsNe, ⟨kind, hcompound, fun a ha => .inr (hitems a ha)⟩, _, forall₂_literal h d, rfl⟩

/-- Integers of both signs are refused. -/
theorem literal_ofBothSigns {ns : List Int} {items : List Argument}
    (h : List.Forall₂ StandsFor ns items) (hne : ns ≠ []) (hsign : ¬ OfOneSign ns) (d : Dialect) :
    ∃ first other, first ≠ other ∧
      (Argument.list items).literal d = .error (.argumentType (.mixedList first other)) := by
  apply Argument.literal_list_mixed (forall_element h d)
  rintro ⟨kind, hkind⟩
  exact hsign ((ofOneSign_iff hne).2 ⟨kind, (forall_kind_iff h kind).1 hkind⟩)

/-- A list of integers that 64 bits hold is read as the only argument. For a single placeholder it
is written as their decimal texts between parentheses exactly if all of them are given as signed
numbers or all as unsigned ones, and otherwise refused as a list of two kinds. -/
theorem integerList_written_iff (d : Dialect) {ns : List Int} {inner text : List Char}
    (hne : ns ≠ []) (hrange : ∀ n ∈ ns, -2 ^ 63 ≤ n ∧ n < 2 ^ 64)
    (hinner : Json.IntegerListText ns inner) (htext : Json.ListText [inner] text) :
    ∃ args, parseArguments text = .ok args ∧
      (Statement.format d ['?'] args = .ok (Argument.parenthesized (ns.map Decimal.ofInt)) ↔
        OfOneSign ns) ∧
      (¬ OfOneSign ns → ∃ first other, first ≠ other ∧
        Statement.format d ['?'] args = .error (.argumentType (.mixedList first other))) := by
  obtain ⟨items, hparse, hitems⟩ := exists_parseArguments hne hrange hinner htext
  refine ⟨[.list items], hparse, ?_⟩
  rw [format_placeholder]
  have hrefused : ¬ OfOneSign ns → ∃ first other, first ≠ other ∧
      (Argument.list items).literal d = .error (.argumentType (.mixedList first other)) :=
    fun hsign => literal_ofBothSigns hitems hne hsign d
  refine ⟨⟨?_, fun hsign => literal_ofOneSign hitems hne hsign d⟩, hrefused⟩
  intro hwritten
  by_contra hsign
  obtain ⟨first, other, -, herror⟩ := hrefused hsign
  cases hwritten.symm.trans herror

/-- The least and the greatest integer that are given as unsigned numbers, with blanks. -/
theorem integerList_written_unsigned :
    ∃ args, parseArguments "[[9223372036854775808, 18446744073709551615] ]".toList = .ok args ∧
      Statement.format .postgres ['?'] args =
        .ok "(9223372036854775808,18446744073709551615)".toList := by
  have hrange : ∀ n ∈ [(9223372036854775808 : Int), 18446744073709551615],
      -2 ^ 63 ≤ n ∧ n < 2 ^ 64 := by decide
  have hsign : OfOneSign [9223372036854775808, 18446744073709551615] := .inr (by decide)
  have hleast : Json.IntegerText 9223372036854775808 "9223372036854775808".toList :=
    @Json.IntegerText.plain "9223372036854775808".toList (by decide)
  have hgreatest : Json.IntegerText 18446744073709551615 "18446744073709551615".toList :=
    @Json.IntegerText.plain "18446744073709551615".toList (by decide)
  have hinner : Json.IntegerListText [9223372036854775808, 18446744073709551615]
      "[9223372036854775808, 18446744073709551615] ".toList := by
    refine ⟨["9223372036854775808".toList, " 18446744073709551615".toList],
      .cons ?_ (.cons ?_ .nil), [], [' '], by decide, by decide, rfl⟩
    · exact ⟨_, hleast, [], [], by decide, by decide, rfl⟩
    · exact ⟨_, hgreatest, [' '], [], by decide, by decide, rfl⟩
  have htext : Json.ListText ["[9223372036854775808, 18446744073709551615] ".toList]
      "[[9223372036854775808, 18446744073709551615] ]".toList :=
    ⟨[], [], by decide, by decide, rfl⟩
  obtain ⟨args, hparse, hwritten, -⟩ :=
    integerList_written_iff .postgres (List.cons_ne_nil _ _) hrange hinner htext
  exact ⟨args, hparse, hwritten.2 hsign⟩

/-- The least integer that is given as an unsigned number cannot stand in a list with `1`. -/
theorem integerList_of_both_signs :
    ¬ ∀ (d : Dialect) (ns : List Int) (inner text : List Char), ns ≠ [] →
      (∀ n ∈ ns, -2 ^ 63 ≤ n ∧ n < 2 ^ 64) → Json.IntegerListText ns inner →
      Json.ListText [inner] text →
      ∃ args, parseArguments text = .ok args ∧
        Statement.format d ['?'] args = .ok (Argument.parenthesized (ns.map Decimal.ofInt)) := by
  intro h
  have hrange : ∀ n ∈ [(1 : Int), 9223372036854775808], -2 ^ 63 ≤ n ∧ n < 2 ^ 64 := by decide
  have hone : Json.IntegerText 1 "1".toList := @Json.IntegerText.plain "1".toList (by decide)
  have hgreat : Json.IntegerText 9223372036854775808 "9223372036854775808".toList :=
    @Json.IntegerText.plain "9223372036854775808".toList (by decide)
  have hinner : Json.IntegerListText [1, 9223372036854775808] "[1,9223372036854775808]".toList := by
    refine ⟨["1".toList, "9223372036854775808".toList], .cons ?_ (.cons ?_ .nil),
      [], [], by decide, by decide, rfl⟩
    · exact ⟨_, hone, [], [], by decide, by decide, rfl⟩
    · exact ⟨_, hgreat, [], [], by decide, by decide, rfl⟩
  have htext : Json.ListText ["[1,9223372036854775808]".toList]
      "[[1,9223372036854775808]]".toList :=
    ⟨[], [], by decide, by decide, rfl⟩
  have hne : [(1 : Int), 9223372036854775808] ≠ [] := List.cons_ne_nil _ _
  have hsign : ¬ OfOneSign [1, 9223372036854775808] := by
    rintro (hsmall | hgreat)
    · exact absurd (hsmall 9223372036854775808 (by simp)) (by decide)
    · exact absurd (hgreat 1 (by simp)) (by decide)
  obtain ⟨args, hargs, hwritten⟩ := h .sqlite _ _ _ hne hrange hinner htext
  obtain ⟨items, hitems, hall⟩ := exists_parseArguments hne hrange hinner htext
  obtain rfl : args = [.list items] := Except.ok.inj (hargs.symm.trans hitems)
  obtain ⟨first, other, -, hrefused⟩ := literal_ofBothSigns hall hne hsign .sqlite
  rw [format_placeholder] at hwritten
  cases hwritten.symm.trans hrefused

end SqlBinding.CommandLine
