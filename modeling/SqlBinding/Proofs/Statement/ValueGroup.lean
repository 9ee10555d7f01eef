import Mathlib.Data.List.Basic
import SqlBinding.Proofs.Text.Runs
import SqlBinding.Statement

/-!
# Value groups by their grammar

A value group is an opening parenthesis, one or more placeholders each of which is followed by a
comma and blanks, any number of placeholders, blanks, and a closing parenthesis. The reader of value
groups takes every item it finds and never tries a shorter beginning. It misses nothing by this: an
item cannot be read as a part of the end of a group, as the end has no comma (`groupItem?_ending`).

Hence a text begins with a value group exactly if one is read there, and what is read is determined.
The search for the only group of a template is stated by the positions at which groups begin.
-/

set_option autoImplicit false

namespace SqlBinding.Statement

open Text

/-- The items of a value group, each with the blanks behind its comma. -/
def itemsText (gaps : List (List Char)) : List Char := gaps.flatMap (['?', ','] ++ ·)

/-- The end of a value group behind its items. -/
def endingText (count : Nat) (gap : List Char) : List Char :=
  List.replicate count placeholder ++ gap ++ [')']

/-- The first item stands in front of the others. -/
theorem itemsText_cons (g : List Char) (gaps : List (List Char)) (rest : List Char) :
    itemsText (g :: gaps) ++ rest = '?' :: ',' :: (g ++ (itemsText gaps ++ rest)) := by
  simp [itemsText]

/-- Whether a text is a value group. -/
def IsValueGroup (text : List Char) : Prop :=
  ∃ gaps count gap, gaps ≠ [] ∧ (∀ g ∈ gaps, Blank g) ∧ Blank gap ∧
    text = '(' :: (itemsText gaps ++ endingText count gap)

/-- Whether a value group begins at a position of a template. -/
def GroupAt (template : List Char) (i : Nat) : Prop :=
  ∃ group, IsValueGroup group ∧ group <+: template.drop i

/-- A placeholder, a comma and blanks are read as an item. -/
theorem groupItem?_item {g : List Char} (hg : Blank g) (cs : List Char) :
    groupItem? ('?' :: ',' :: (g ++ cs)) = some (trimStart cs) :=
  congrArg some (List.dropWhile_append_of_pos hg)

/-- What is read as an item is a placeholder, a comma and blanks. -/
theorem exists_item_of_groupItem? {cs rest : List Char} (h : groupItem? cs = some rest) :
    ∃ g, Blank g ∧ cs = '?' :: ',' :: (g ++ rest) := by
  unfold groupItem? at h
  split at h
  · rename_i tail
    cases h
    refine ⟨tail.takeWhile isBlank, fun c hc => List.mem_takeWhile_imp hc, ?_⟩
    rw [trimStart, List.takeWhile_append_dropWhile]
  · cases h

/-- What follows the placeholders at the end of a group is neither a placeholder nor a comma. -/
theorem ne_of_mem_head_gap {gap rest : List Char} (hgap : Blank gap) {c : Char}
    (hc : c ∈ (gap ++ ')' :: rest).head?) : c ≠ placeholder ∧ c ≠ ',' := by
  cases gap with
  | nil =>
    cases hc
    decide
  | cons g gap =>
    cases hc
    have hblank : isBlank c := hgap c List.mem_cons_self
    constructor <;> rintro rfl <;> exact absurd hblank (by decide)

/-- The end of a group is placeholders, blanks and a parenthesis. -/
theorem endingText_append (count : Nat) (gap rest : List Char) :
    endingText count gap ++ rest = List.replicate count placeholder ++ (gap ++ ')' :: rest) := by
  simp [endingText]

/-- The end of a group is read as such, whatever stands behind it. -/
theorem groupEnd_ending {gap : List Char} (hgap : Blank gap) (count : Nat) (rest : List Char) :
    groupEnd (endingText count gap ++ rest) = some rest := by
  have hrun : ∀ c ∈ List.replicate count placeholder, c == placeholder := fun c hc => by
    rw [List.eq_of_mem_replicate hc]
    rfl
  have hhead : ∀ c ∈ (gap ++ ')' :: rest).head?, (c == placeholder) = false := fun c hc =>
    beq_false_of_ne (ne_of_mem_head_gap hgap hc).1
  have hparen : ∀ c ∈ (')' :: rest).head?, isBlank c = false := by
    rintro c ⟨⟩
    rfl
  rw [groupEnd, endingText_append, (span_of_head hrun hhead).2, (span_of_head hgap hparen).2]
  rfl

/-- What is read as the end of a group is one. -/
theorem exists_ending_of_groupEnd {cs rest : List Char} (h : groupEnd cs = some rest) :
    ∃ count gap, Blank gap ∧ cs = endingText count gap ++ rest := by
  unfold groupEnd at h
  split at h
  · rename_i hrest
    cases h
    let marks := cs.takeWhile (· == placeholder)
    let gap := (cs.dropWhile (· == placeholder)).takeWhile isBlank
    have hmarks : marks = List.replicate marks.length placeholder :=
      List.eq_replicate_of_mem fun c hc => eq_of_beq (List.mem_takeWhile_imp (p := (· == _)) hc)
    have hgap : cs.dropWhile (· == placeholder) = gap ++ ')' :: rest := by
      rw [← hrest, List.takeWhile_append_dropWhile]
    refine ⟨marks.length, gap, fun c hc => List.mem_takeWhile_imp hc, ?_⟩
    rw [endingText_append, ← hmarks, ← hgap, List.takeWhile_append_dropWhile]
  · cases h

/-- The end of a group does not look like a further item. -/
theorem groupItem?_ending {gap : List Char} (hgap : Blank gap) (count : Nat) (rest : List Char) :
    groupItem? (endingText count gap ++ rest) = none := by
  refine Option.eq_none_iff_forall_ne_some.2 fun tail htail => ?_
  obtain ⟨g, -, hcs⟩ := exists_item_of_groupItem? htail
  rw [endingText_append] at hcs
  match count with
  | 0 =>
    have hmark : gap ++ ')' :: rest = '?' :: ',' :: (g ++ tail) := hcs
    have hhead : placeholder ∈ (gap ++ ')' :: rest).head? := by
      rw [hmark]
      rfl
    exact (ne_of_mem_head_gap hgap hhead).1 rfl
  | 1 =>
    have htail : gap ++ ')' :: rest = ',' :: (g ++ tail) := (List.cons.inj hcs).2
    have hhead : ',' ∈ (gap ++ ')' :: rest).head? := by
      rw [htail]
      rfl
    exact (ne_of_mem_head_gap hgap hhead).2 rfl
  | count + 2 => simp [List.replicate_succ, placeholder] at hcs

/-- One step of reading the items of a group and its end. -/
theorem groupTail_eq (cs : List Char) :
    groupTail cs =
      match groupItem? cs with
      | some rest => groupTail rest
      | none => groupEnd cs := by
  rw [groupTail]
  split <;> rename_i h <;> simp only [h]

/-- Items and the end of a group are read as such, whatever stands behind them. -/
theorem groupTail_items {gaps : List (List Char)} {gap : List Char} (hgaps : ∀ g ∈ gaps, Blank g)
    (hgap : Blank gap) (count : Nat) (rest : List Char) :
    groupTail (trimStart (itemsText gaps ++ (endingText count gap ++ rest))) = some rest := by
  induction gaps with
  | nil =>
    -- Without placeholders the blanks of the end are passed over with those of the last item.
    obtain ⟨gap', hgap', htrim⟩ : ∃ gap', Blank gap' ∧
        trimStart (endingText count gap ++ rest) = endingText count gap' ++ rest := by
      cases count with
      | zero =>
        have hparen : ∀ c ∈ (')' :: rest).head?, isBlank c = false := by
          rintro c ⟨⟩
          rfl
        refine ⟨[], by simp [Blank], ?_⟩
        rw [endingText_append, endingText_append]
        exact trimStart_blank hgap hparen
      | succ count => exact ⟨gap, hgap, rfl⟩
    show groupTail (trimStart (endingText count gap ++ rest)) = some rest
    rw [htrim, groupTail_eq, groupItem?_ending hgap']
    exact groupEnd_ending hgap' count rest
  | cons g gaps ih =>
    have hitem : groupItem? (trimStart (itemsText (g :: gaps) ++ (endingText count gap ++ rest))) =
        some (trimStart (itemsText gaps ++ (endingText count gap ++ rest))) := by
      rw [itemsText_cons]
      exact groupItem?_item (hgaps g (by simp)) _
    rw [groupTail_eq, hitem]
    exact ih fun g' hg' => hgaps g' (by simp [hg'])

/-- What is read as items and the end of a group is made up of them. -/
theorem exists_items_of_groupTail {cs rest : List Char} (h : groupTail cs = some rest) :
    ∃ gaps count gap, (∀ g ∈ gaps, Blank g) ∧ Blank gap ∧
      cs = itemsText gaps ++ (endingText count gap ++ rest) := by
  induction hn : cs.length using Nat.strong_induction_on generalizing cs with
  | _ n ih =>
    subst hn
    rw [groupTail_eq] at h
    cases hitem : groupItem? cs with
    | none =>
      rw [hitem] at h
      obtain ⟨count, gap, hgap, rfl⟩ := exists_ending_of_groupEnd h
      exact ⟨[], count, gap, by simp, hgap, rfl⟩
    | some next =>
      rw [hitem] at h
      obtain ⟨gaps, count, gap, hgaps, hgap, hnext⟩ := ih _ (groupItem?_length hitem) h rfl
      obtain ⟨g, hg, rfl⟩ := exists_item_of_groupItem? hitem
      refine ⟨g :: gaps, count, gap, List.forall_mem_cons.2 ⟨hg, hgaps⟩, hgap, ?_⟩
      rw [itemsText_cons, hnext]

/-- A value group is read at the beginning of a text exactly if the text begins with one. -/
theorem valueGroup?_eq_some_iff {cs rest : List Char} :
    valueGroup? cs = some rest ↔ ∃ group, IsValueGroup group ∧ cs = group ++ rest := by
  constructor
  · intro h
    unfold valueGroup? at h
    split at h
    · obtain ⟨next, hitem, htail⟩ := Option.bind_eq_some_iff.1 h
      obtain ⟨gaps, count, gap, hgaps, hgap, rfl⟩ := exists_items_of_groupTail htail
      obtain ⟨g, hg, rfl⟩ := exists_item_of_groupItem? hitem
      refine ⟨_, ⟨g :: gaps, count, gap, List.cons_ne_nil _ _,
        List.forall_mem_cons.2 ⟨hg, hgaps⟩, hgap, rfl⟩, ?_⟩
      rw [List.cons_append, List.append_assoc, itemsText_cons]
    · cases h
  · rintro ⟨group, ⟨gaps, count, gap, hne, hgaps, hgap, rfl⟩, rfl⟩
    obtain ⟨g, gaps, rfl⟩ := List.exists_cons_of_ne_nil hne
    obtain ⟨hg, hgaps⟩ := List.forall_mem_cons.1 hgaps
    rw [List.cons_append, List.append_assoc, itemsText_cons, valueGroup?, groupItem?_item hg]
    exact groupTail_items hgaps hgap count rest

/-- A text begins with at most one value group. -/
theorem IsValueGroup.unique {group group' after after' : List Char} (h : IsValueGroup group)
    (h' : IsValueGroup group') (heq : group ++ after = group' ++ after') :
    group = group' ∧ after = after' := by
  have hread : valueGroup? (group ++ after) = some after := valueGroup?_eq_some_iff.2 ⟨_, h, rfl⟩
  have hread' : valueGroup? (group ++ after) = some after' :=
    valueGroup?_eq_some_iff.2 ⟨_, h', heq⟩
  obtain rfl : after = after' := Option.some.inj (hread.symm.trans hread')
  exact ⟨List.append_cancel_right heq, rfl⟩

/-! ### The positions of value groups -/

/-- A group begins at the start of a text if one is read there. -/
theorem groupAt_zero_iff {template : List Char} :
    GroupAt template 0 ↔ (valueGroup? template).isSome := by
  rw [Option.isSome_iff_exists]
  constructor
  · rintro ⟨group, hgroup, rest, rfl⟩
    exact ⟨rest, valueGroup?_eq_some_iff.2 ⟨group, hgroup, rfl⟩⟩
  · rintro ⟨rest, h⟩
    obtain ⟨group, hgroup, rfl⟩ := valueGroup?_eq_some_iff.1 h
    exact ⟨group, hgroup, rest, rfl⟩

/-- No group begins in the empty text. -/
theorem not_groupAt_nil (i : Nat) : ¬ GroupAt [] i := by
  rintro ⟨group, ⟨gaps, count, gap, -, -, -, rfl⟩, hprefix⟩
  rw [List.drop_nil] at hprefix
  cases List.eq_nil_of_prefix_nil hprefix

/-- A group behind some text begins where that text ends. -/
theorem groupAt_length {before group after : List Char} (h : IsValueGroup group) :
    GroupAt (before ++ group ++ after) before.length :=
  ⟨group, h, after, by rw [List.append_assoc, List.drop_left]⟩

/-- A group that begins at the first character counts. -/
theorem groupCount_of_groupAt {c : Char} {cs : List Char} (h : GroupAt (c :: cs) 0) :
    groupCount (c :: cs) = groupCount cs + 1 := by
  rw [groupCount, if_pos (groupAt_zero_iff.1 h)]

/-- A first character at which no group begins counts for nothing. -/
theorem groupCount_of_not_groupAt {c : Char} {cs : List Char} (h : ¬ GroupAt (c :: cs) 0) :
    groupCount (c :: cs) = groupCount cs := by
  rw [groupCount, if_neg (mt groupAt_zero_iff.2 h), Nat.add_zero]

/-- No group is counted exactly if none begins anywhere. -/
theorem groupCount_eq_zero_iff {template : List Char} :
    groupCount template = 0 ↔ ∀ i, ¬ GroupAt template i := by
  induction template with
  | nil => simp [groupCount, not_groupAt_nil]
  | cons c cs ih =>
    by_cases hhead : GroupAt (c :: cs) 0
    · rw [groupCount_of_groupAt hhead]
      exact iff_of_false (Nat.succ_ne_zero _) fun h => h 0 hhead
    · rw [groupCount_of_not_groupAt hhead, ih]
      constructor
      · rintro h (_ | i)
        · exact hhead
        · exact h i
      · exact fun h i => h (i + 1)

/-- At most one group is counted exactly if groups begin at one position at most. -/
theorem groupCount_le_one_iff {template : List Char} :
    groupCount template ≤ 1 ↔ ∀ i j, GroupAt template i → GroupAt template j → i = j := by
  induction template with
  | nil => simp [groupCount, not_groupAt_nil]
  | cons c cs ih =>
    by_cases hhead : GroupAt (c :: cs) 0
    · have hzero : groupCount cs + 1 ≤ 1 ↔ groupCount cs = 0 := by omega
      rw [groupCount_of_groupAt hhead, hzero, groupCount_eq_zero_iff]
      constructor
      · rintro hnone (_ | i) (_ | j) hi hj
        · rfl
        · exact absurd hj (hnone j)
        · exact absurd hi (hnone i)
        · exact absurd hi (hnone i)
      · intro hsame i hi
        cases hsame 0 (i + 1) hhead hi
    · rw [groupCount_of_not_groupAt hhead, ih]
      constructor
      · rintro hsame (_ | i) (_ | j) hi hj
        · rfl
        · exact absurd hi hhead
        · exact absurd hj hhead
        · exact congrArg (· + 1) (hsame i j hi hj)
      · exact fun hsame i j hi hj => Nat.succ.inj (hsame (i + 1) (j + 1) hi hj)

/-- One group is counted exactly if there is one position at which one begins. -/
theorem existsUnique_groupAt_iff {template : List Char} :
    (∃! i, GroupAt template i) ↔ groupCount template = 1 := by
  have hone : groupCount template = 1 ↔ groupCount template ≠ 0 ∧ groupCount template ≤ 1 := by
    omega
  rw [hone, Ne, groupCount_eq_zero_iff, groupCount_le_one_iff, not_forall_not]
  constructor
  · rintro ⟨i, hi, honly⟩
    exact ⟨⟨i, hi⟩, fun j k hj hk => (honly j hj).trans (honly k hk).symm⟩
  · rintro ⟨⟨i, hi⟩, hsame⟩
    exact ⟨i, hi, fun j hj => hsame j i hj hi⟩

/-- A template is not split exactly if no group begins anywhere. -/
theorem splitGroup_eq_none_iff {template : List Char} :
    splitGroup template = none ↔ ∀ i, ¬ GroupAt template i := by
  induction template with
  | nil => simp [splitGroup, not_groupAt_nil]
  | cons c cs ih =>
    cases hread : valueGroup? (c :: cs) with
    | some rest =>
      have hhead : GroupAt (c :: cs) 0 := groupAt_zero_iff.2 (by rw [hread]; rfl)
      simp only [splitGroup, hread]
      exact iff_of_false (Option.some_ne_none _) fun h => h 0 hhead
    | none =>
      have hhead : ¬ GroupAt (c :: cs) 0 := fun h => by simpa [hread] using groupAt_zero_iff.1 h
      simp only [splitGroup, hread, Option.map_eq_none_iff, ih]
      constructor
      · rintro h (_ | i)
        · exact hhead
        · exact h i
      · exact fun h i => h (i + 1)

/-- A template is split at its first value group. -/
theorem splitGroup_append {before group after : List Char} (hgroup : IsValueGroup group)
    (hfirst : ∀ i < before.length, ¬ GroupAt (before ++ group ++ after) i) :
    splitGroup (before ++ group ++ after) = some (before, group) := by
  induction before with
  | nil =>
    have hread : valueGroup? (group ++ after) = some after :=
      valueGroup?_eq_some_iff.2 ⟨group, hgroup, rfl⟩
    obtain ⟨gaps, count, gap, -, -, -, htext⟩ := id hgroup
    have hcons : group ++ after = '(' :: (itemsText gaps ++ endingText count gap ++ after) := by
      rw [htext]
      rfl
    have htake : (group ++ after).take ((group ++ after).length - after.length) = group := by simp
    rw [hcons] at hread htake
    rw [List.nil_append, hcons]
    simp only [splitGroup, hread, htake]
  | cons c before ih =>
    have hread : valueGroup? (c :: (before ++ group ++ after)) = none := by
      refine Option.eq_none_iff_forall_ne_some.2 fun rest hrest => ?_
      exact hfirst 0 (Nat.succ_pos _) (groupAt_zero_iff.2 (Option.isSome_of_eq_some hrest))
    have hrest := ih fun i hi => hfirst (i + 1) (Nat.succ_lt_succ hi)
    simp only [List.cons_append, splitGroup, hread, hrest, Option.map_some]

end SqlBinding.Statement
