import SqlBinding.Column.Family
import SqlBinding.Proofs.Numeric.DecimalText
import SqlBinding.Proofs.Outcome
import SqlBinding.Proofs.Text.Runs

/-!
# Families of declared types and the forms of their values

A declared type belongs to a family if it begins, blanks aside, with one of the names of the family
in any case, with the unsigned mark behind it or not, and goes on with nothing but blanks up to its
end or to a parenthesis (`Declares`). `Canonical` says what form a value has in a family, and
`Takes` which values the family takes. What is in the form of the family stays as it is.
-/

set_option autoImplicit false

namespace SqlBinding

open Numeric Text

namespace Text

/-! ### Characters in uppercase -/

/-- A character stays as it is in uppercase, or is a lowercase letter 32 places behind its capital.
-/
theorem toNat_toUpper (c : Char) :
    c.toUpper = c ∨ (97 ≤ c.toNat ∧ c.toNat ≤ 122 ∧ c.toUpper.toNat + 32 = c.toNat) := by
  unfold Char.toUpper
  split
  · rename_i h
    have hmin : 97 ≤ c.toNat := h.1
    have hmax : c.toNat ≤ 122 := h.2
    refine .inr ⟨hmin, hmax, ?_⟩
    show (c.val + ('A'.val - 'a'.val)).toNat + 32 = c.val.toNat
    have hval : c.val.toNat = c.toNat := rfl
    have hshift : ('A'.val - 'a'.val).toNat = 2 ^ 32 - 32 := by decide
    rw [UInt32.toNat_add, hshift]
    omega
  · exact .inl rfl

/-- A character is a blank in either case or in neither. -/
theorem isBlank_toUpper (c : Char) : isBlank c.toUpper = isBlank c := by
  rcases toNat_toUpper c with h | ⟨hmin, hmax, hupper⟩
  · rw [h]
  · have hblank : isBlank c = false := by
      simp [isBlank]
      omega
    rw [hblank]
    simp [isBlank]
    omega

/-- Only a parenthesis becomes one in uppercase. -/
theorem toUpper_eq_opening_iff (c : Char) : c.toUpper = '(' ↔ c = '(' := by
  rcases toNat_toUpper c with h | ⟨hmin, hmax, hupper⟩
  · rw [h]
  · constructor
    · intro h
      rw [h] at hupper
      have hopening : '('.toNat = 40 := rfl
      omega
    · rintro rfl
      rfl

/-- It makes no difference whether a text is trimmed before it is put into uppercase or after. -/
theorem trim_map_toUpper (cs : List Char) :
    trim (cs.map Char.toUpper) = (trim cs).map Char.toUpper := by
  have hblank : isBlank ∘ Char.toUpper = isBlank := funext isBlank_toUpper
  simp only [trim, trimStart, trimEnd, dropEndWhile, List.dropWhile_map, hblank, ← List.map_reverse]

/-- A text begins and ends with the same blanks in either case. -/
theorem Tight.of_map_toUpper {cs : List Char} (h : Tight (cs.map Char.toUpper)) : Tight cs := by
  obtain ⟨⟨first, hfirst, hfirstBlank⟩, last, hlast, hlastBlank⟩ := h
  rw [List.head?_map] at hfirst
  rw [List.getLast?_map] at hlast
  obtain ⟨c, hc, rfl⟩ := Option.map_eq_some_iff.1 hfirst
  obtain ⟨d, hd, rfl⟩ := Option.map_eq_some_iff.1 hlast
  exact ⟨⟨c, hc, by rwa [isBlank_toUpper] at hfirstBlank⟩, d, hd,
    by rwa [isBlank_toUpper] at hlastBlank⟩

/-- It makes no difference whether blanks are removed before a text is cut off or behind. -/
theorem trim_takeWhile_trim {p : Char → Bool} (hp : ∀ c, isBlank c → p c) (cs : List Char) :
    trim ((trim cs).takeWhile p) = trim (cs.takeWhile p) := by
  obtain ⟨before, after, hcs, hbefore, hafter⟩ := exists_trim cs
  have hkept : ∃ kept, ((trim cs) ++ after).takeWhile p = (trim cs).takeWhile p ++ kept ∧
      Blank kept := by
    rw [List.takeWhile_append]
    split
    · rename_i hall
      refine ⟨after.takeWhile p, ?_, fun c hc => hafter c (List.takeWhile_subset p hc)⟩
      rw [(List.takeWhile_prefix p).eq_of_length hall]
    · exact ⟨[], (List.append_nil _).symm, nofun⟩
  obtain ⟨kept, hkept, hblank⟩ := hkept
  conv_rhs => rw [hcs]
  rw [List.append_assoc, List.takeWhile_append_of_pos fun c hc => hp c (hbefore c hc), hkept,
    ← List.append_assoc, trim_between_blanks hbefore hblank]

end Text

namespace TypeFamily

variable {family : TypeFamily}

/-! ### Declared types -/

/-- Whether a declared type is one of a family. -/
def Declares (family : TypeFamily) (declaredType : List Char) : Prop :=
  ∃ before word mark gap tail, declaredType = before ++ (word ++ mark) ++ gap ++ tail ∧
    Blank before ∧ String.ofList (word.map Char.toUpper) ∈ family.declared ∧
    (mark = [] ∨ mark.map Char.toUpper = unsignedMark) ∧ Blank gap ∧ ∀ c ∈ tail.head?, c = '('

/-- The names of types are in uppercase, without blanks at their ends, parentheses and marks. -/
theorem plain_of_mem_declared {word : String} (h : word ∈ family.declared) :
    Tight word.toList ∧ '(' ∉ word.toList ∧ withoutEnd unsignedMark word.toList = word.toList := by
  have hplain : ∀ family ∈ [integer, float, bool, text, time, raw], ∀ word ∈ family.declared,
      (word.toList.head?.any fun c => !isBlank c) ∧ (word.toList.getLast?.any fun c => !isBlank c) ∧
        '(' ∉ word.toList ∧ withoutEnd unsignedMark word.toList = word.toList := by decide
  obtain ⟨hhead, hlast, hrest⟩ := hplain family (by cases family <;> simp) word h
  refine ⟨⟨?_, ?_⟩, hrest⟩
  · simpa [Option.any_eq_true] using hhead
  · simpa [Option.any_eq_true] using hlast

/-- No type is in two families. -/
theorem eq_of_mem_declared {other : TypeFamily} {word : String} (h : word ∈ family.declared)
    (hother : word ∈ other.declared) : family = other := by
  have hdisjoint : ∀ family ∈ [integer, float, bool, text, time, raw],
      ∀ other ∈ [integer, float, bool, text, time, raw], ∀ word ∈ family.declared,
        word ∈ other.declared → family = other := by decide
  exact hdisjoint family (by cases family <;> simp) other (by cases other <;> simp) word h hother

/-- A declared type is of a known family if what is left of it is one of the names of the family. -/
theorem ofDatabaseType_eq_iff_mem (hfamily : family ≠ raw) (declaredType : String) :
    ofDatabaseType declaredType = family ↔ baseType declaredType ∈ family.declared := by
  unfold ofDatabaseType
  dsimp only
  constructor
  · intro h
    cases hfind : [integer, float, bool, text, time].find? fun family =>
        family.declared.contains (baseType declaredType) with
    | none =>
      rw [hfind] at h
      exact absurd h.symm hfamily
    | some found =>
      rw [hfind] at h
      obtain rfl : found = family := h
      simpa using List.find?_some hfind
  · intro h
    have hfind : ([integer, float, bool, text, time].find? fun family =>
        family.declared.contains (baseType declaredType)).isSome := by
      rw [List.find?_isSome]
      refine ⟨family, ?_, by simpa using h⟩
      cases family <;> simp at hfamily ⊢
    obtain ⟨found, hfound⟩ := Option.isSome_iff_exists.1 hfind
    have hmem : baseType declaredType ∈ found.declared := by simpa using List.find?_some hfound
    rw [hfound]
    exact eq_of_mem_declared hmem h

/-- An end that was added is removed again. -/
theorem withoutEnd_append (tail cs : List Char) : withoutEnd tail (cs ++ tail) = cs := by
  simp [withoutEnd]

/-- What is removed from the end of a text is that end or nothing. -/
theorem exists_withoutEnd (tail cs : List Char) :
    ∃ mark, cs = withoutEnd tail cs ++ mark ∧ (mark = [] ∨ mark = tail) := by
  unfold withoutEnd
  split
  · rename_i h
    exact ⟨tail, by conv_lhs => rw [← List.take_append_drop (cs.length - tail.length) cs, h],
      .inr rfl⟩
  · exact ⟨[], (List.append_nil cs).symm, .inl rfl⟩

/-- What is left of a declared type: the text in front of a parenthesis, in uppercase, without the
blanks around it and the mark behind it. -/
theorem baseType_eq (declaredType : String) :
    baseType declaredType = String.ofList (withoutEnd unsignedMark
      ((trim (declaredType.toList.takeWhile (· != '('))).map Char.toUpper)) := by
  have hopening : (fun c : Char => c != '(') ∘ Char.toUpper = (· != '(') := by
    funext c
    simp [bne, toUpper_eq_opening_iff, beq_eq_decide]
  have hblank : ∀ c, isBlank c → (c != '(') = true := by
    rintro c hc
    simp only [bne_iff_ne]
    rintro rfl
    cases hc
  show String.ofList (withoutEnd unsignedMark
    (trim (((trim declaredType.toList).map Char.toUpper).takeWhile (· != '(')))) = _
  rw [List.takeWhile_map, hopening, trim_map_toUpper, trim_takeWhile_trim hblank]

/-- A type is declared as one of a family if what is left of it is a name of the family. -/
theorem declares_of_mem {cs : List Char}
    (h : String.ofList (withoutEnd unsignedMark
      ((trim (cs.takeWhile (· != '('))).map Char.toUpper)) ∈ family.declared) :
    family.Declares cs := by
  obtain ⟨before, gap, hhead, hbefore, hgap⟩ := exists_trim (cs.takeWhile (· != '('))
  obtain ⟨upperMark, hupper, hmark⟩ := exists_withoutEnd unsignedMark
    ((trim (cs.takeWhile (· != '('))).map Char.toUpper)
  obtain ⟨word, mark, hcore, hword, rfl⟩ := List.map_eq_append_iff.1 hupper
  refine ⟨before, word, mark, gap, cs.dropWhile (· != '('), ?_, hbefore, by rwa [hword],
    hmark.imp_left List.map_eq_nil_iff.1, hgap, fun c hc => ?_⟩
  · rw [← hcore, ← hhead, List.takeWhile_append_dropWhile]
  · have hstop := List.head?_dropWhile_not (· != '(') cs
    rw [Option.mem_def.1 hc] at hstop
    simpa using hstop

/-- A mark has no parenthesis in it and no blank at its end. -/
theorem plain_of_mark {mark : List Char} (h : mark = [] ∨ mark.map Char.toUpper = unsignedMark) :
    '(' ∉ mark ∧ ∀ c ∈ mark.getLast?, isBlank c = false := by
  rcases h with rfl | h
  · exact ⟨List.not_mem_nil, nofun⟩
  · constructor
    · intro hmem
      have hupper : '('.toUpper ∈ mark.map Char.toUpper := List.mem_map_of_mem hmem
      rw [h] at hupper
      revert hupper
      decide
    · intro c hc
      have hlast : (mark.map Char.toUpper).getLast? = some 'D' := by
        rw [h]
        rfl
      rw [List.getLast?_map, Option.mem_def.1 hc] at hlast
      rw [← isBlank_toUpper, Option.some.inj hlast]
      rfl

/-- What is left of a type that is declared as one of a family is a name of the family. -/
theorem Declares.mem {cs : List Char} (h : family.Declares cs) :
    String.ofList (withoutEnd unsignedMark
      ((trim (cs.takeWhile (· != '('))).map Char.toUpper)) ∈ family.declared := by
  obtain ⟨before, word, mark, gap, tail, rfl, hbefore, hword, hmark, hgap, htail⟩ := h
  obtain ⟨htight, hopening, hplain⟩ := plain_of_mem_declared hword
  rw [String.toList_ofList] at htight hopening hplain
  obtain ⟨hmarkOpening, hmarkLast⟩ := plain_of_mark hmark
  have hwordOpening : '(' ∉ word := fun hmem => hopening (List.mem_map_of_mem hmem)
  have hblankOpening : ∀ {cs : List Char}, Blank cs → '(' ∉ cs := fun h hmem => nomatch h _ hmem
  -- The tail begins at the first parenthesis, and what is in front of it is trimmed to the name.
  have hcut : (before ++ (word ++ mark) ++ gap ++ tail).takeWhile (· != '(') =
      before ++ (word ++ mark) ++ gap := by
    have hnone : '(' ∉ before ++ (word ++ mark) ++ gap := by
      simp [hblankOpening hbefore, hwordOpening, hmarkOpening, hblankOpening hgap]
    refine (span_of_head (fun c hc => ?_) fun c hc => ?_).1
    · rw [bne_iff_ne]
      rintro rfl
      exact hnone hc
    · simp [htail c hc]
  rw [hcut, trim_tight hbefore (htight.of_map_toUpper.append hmarkLast) hgap, List.map_append]
  rcases hmark with rfl | hmark
  · rw [List.map_nil, List.append_nil, hplain]
    exact hword
  · rw [hmark, withoutEnd_append]
    exact hword

/-- A declared type is of a family exactly if it is one of its types. -/
theorem ofDatabaseType_eq_iff (hfamily : family ≠ raw) (declaredType : String) :
    ofDatabaseType declaredType = family ↔ family.Declares declaredType.toList := by
  rw [ofDatabaseType_eq_iff_mem hfamily, baseType_eq]
  exact ⟨declares_of_mem, Declares.mem⟩

/-! ### The forms of values -/

/-- The form in which a value stands in a column of a family. -/
inductive Canonical : TypeFamily → ColumnValue → ColumnValue → Prop
  | null {family : TypeFamily} : Canonical family .null .null
  | integer {v : ColumnValue} {n : I64} (h : v.toInteger .i64 = .ok n) :
    Canonical integer v (.int n)
  | float {v : ColumnValue} {x : Binary64} (h : v.toDouble = .ok x) : Canonical float v (.float x)
  | bool {v : ColumnValue} {b : Bool} (h : v.toBool = .ok b) : Canonical bool v (.bool b)
  | text {v : ColumnValue} {s : String} (h : v.toText = .ok s) : Canonical text v (.text s)
  | time {v : ColumnValue} {t : Time.Timestamp} (h : v.toTimestamp = .ok t) :
    Canonical time v (.timestamp t)
  | raw (v : ColumnValue) : Canonical raw v v

/-- Only NULL is stored as NULL. -/
theorem Canonical.eq_null {v : ColumnValue} (h : family.Canonical v .null) : v = .null := by
  cases h <;> rfl

/-- A value that is in the form of a family stays as it is. -/
theorem Canonical.fixed {v w : ColumnValue} (h : family.Canonical v w) : family.Canonical w w := by
  cases h with
  | null => exact .null
  | @integer _ n h =>
    refine .integer ?_
    rw [ColumnValue.toInteger, IntKind.ofInt?_of_holds ⟨n.ge_min, n.le_max⟩]
  | float h => exact .float rfl
  | bool h => exact .bool rfl
  | text h => exact .text rfl
  | time h => exact .time rfl
  | raw v => exact .raw v

/-- What a column of a family takes: every value that has a form in the family, but NULL only where
the column is not declared without it, or the family is not known. -/
def Takes (family : TypeFamily) (nullable : Option Bool) (v : ColumnValue) : Prop :=
  (∃ w, family.Canonical v w) ∧ (v = .null → nullable = some false → family = .raw)

/-- NULL is kept unless the column is declared without it and belongs to a known family. -/
theorem read_null (family : TypeFamily) (nullable : Option Bool) :
    family.read .null nullable =
      if nullable = some false ∧ family ≠ raw then .error (.unexpectedNull family.name)
      else .ok .null := rfl

/-- A value that is not NULL is brought into the form of the family. -/
theorem read_eq_ok_iff_of_ne_null {v w : ColumnValue} (hv : v ≠ .null) (nullable : Option Bool) :
    family.read v nullable = .ok w ↔ family.Canonical v w := by
  have hsome : ¬ v.isNull = true := by
    cases v <;> first | exact absurd rfl hv | exact Bool.false_ne_true
  unfold read
  rw [if_neg hsome]
  constructor
  · intro h
    cases family with
    | integer =>
      obtain ⟨n, hn, rfl⟩ := Outcome.map_eq_ok_iff.1 h
      exact .integer hn
    | float =>
      obtain ⟨x, hx, rfl⟩ := Outcome.map_eq_ok_iff.1 h
      exact .float hx
    | bool =>
      obtain ⟨b, hb, rfl⟩ := Outcome.map_eq_ok_iff.1 h
      exact .bool hb
    | text =>
      obtain ⟨s, hs, rfl⟩ := Outcome.map_eq_ok_iff.1 h
      exact .text hs
    | time =>
      obtain ⟨t, ht, rfl⟩ := Outcome.map_eq_ok_iff.1 h
      exact .time ht
    | raw =>
      cases h
      exact .raw v
  · intro h
    cases h with
    | null => exact absurd rfl hv
    | integer h | float h | bool h | text h | time h => exact Outcome.map_eq_ok_iff.2 ⟨_, h, rfl⟩
    | raw v => rfl

/-- A value is read exactly if it is taken, and then as its form. -/
theorem read_eq_ok_iff {v w : ColumnValue} {nullable : Option Bool} :
    family.read v nullable = .ok w ↔ family.Takes nullable v ∧ family.Canonical v w := by
  by_cases hv : v = .null
  · subst hv
    have hform : family.Canonical .null w ↔ w = .null := by
      constructor
      · intro h
        cases h with
        | null | raw => rfl
        | integer h | float h | bool h | text h | time h => cases h
      · rintro rfl
        exact .null
    have htakes : family.Takes nullable .null ↔ ¬ (nullable = some false ∧ family ≠ raw) := by
      rw [not_and, not_ne_iff]
      exact ⟨fun h => h.2 rfl, fun h => ⟨⟨.null, .null⟩, fun _ => h⟩⟩
    rw [read_null, htakes, hform]
    split <;> simp_all [eq_comm]
  · rw [read_eq_ok_iff_of_ne_null hv]
    exact ⟨fun h => ⟨⟨⟨w, h⟩, fun hnull => absurd hnull hv⟩, h⟩, And.right⟩

/-- Exactly the values that a family takes are read in it. -/
theorem exists_read_eq_ok_iff {v : ColumnValue} {nullable : Option Bool} :
    (∃ w, family.read v nullable = .ok w) ↔ family.Takes nullable v := by
  simp only [read_eq_ok_iff]
  constructor
  · rintro ⟨w, htakes, -⟩
    exact htakes
  · intro htakes
    obtain ⟨w, hform⟩ := htakes.1
    exact ⟨w, htakes, hform⟩

/-- What was read once is read again as it is. -/
theorem read_again {v w : ColumnValue} {nullable : Option Bool}
    (h : family.read v nullable = .ok w) : family.read w nullable = .ok w := by
  obtain ⟨⟨-, hnull⟩, hform⟩ := read_eq_ok_iff.1 h
  refine read_eq_ok_iff.2 ⟨⟨⟨w, hform.fixed⟩, ?_⟩, hform.fixed⟩
  rintro rfl
  exact hnull hform.eq_null

end TypeFamily

end SqlBinding
