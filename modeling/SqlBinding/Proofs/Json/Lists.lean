import Mathlib.Data.List.Forall2
import SqlBinding.Json.Value
import SqlBinding.Proofs.Text.Runs

/-!
# JSON lists of integers

A JSON text may have blanks between its parts. A list is read item by item, each up to the comma or
bracket behind it, and an integer that 64 bits hold is worth itself; so a list of such integers, and
a list that holds nothing else, have the value that they spell.
-/

set_option autoImplicit false

namespace SqlBinding.Json

open Numeric

/-! ### Spellings -/

/-- Whether a text consists of blanks. -/
def Space (cs : List Char) : Prop := ∀ c ∈ cs, isSpace c

instance (cs : List Char) : Decidable (Space cs) :=
  decidable_of_iff (cs.all isSpace) List.all_eq_true

/-- Whether a text is another one with blanks around it. -/
def Spaced (core text : List Char) : Prop :=
  ∃ before after, Space before ∧ Space after ∧ text = before ++ core ++ after

/-- Whether a text is a list with the given entries between its commas. -/
def ListText (entries : List (List Char)) (text : List Char) : Prop :=
  Spaced ('[' :: (List.intercalate [','] entries ++ [']'])) text

/-- Whether digits may stand in front of a point: there are some, and no zero stands in front of
another digit. -/
structure WholeDigits (digits : List Char) : Prop where
  ne_nil : digits ≠ []
  isDigit : ∀ c ∈ digits, c.isDigit
  zero : digits.head? = some '0' → digits = ['0']

instance (digits : List Char) : Decidable (WholeDigits digits) :=
  decidable_of_iff (digits ≠ [] ∧ digits.all Char.isDigit ∧
    (digits.head? = some '0' → digits = ['0']))
    ⟨fun h => ⟨h.1, List.all_eq_true.1 h.2.1, h.2.2⟩,
      fun h => ⟨h.ne_nil, List.all_eq_true.2 h.isDigit, h.zero⟩⟩

/-- Whether a text is an integer, which has no minus sign in front of zero. -/
inductive IntegerText : Int → List Char → Prop
  | plain {digits : List Char} (hdigits : WholeDigits digits) :
    IntegerText (Decimal.value digits) digits
  | negative {digits : List Char} (hdigits : WholeDigits digits)
    (hpos : 0 < Decimal.value digits) : IntegerText (-(Decimal.value digits)) ('-' :: digits)

/-- Whether a text is an integer with blanks around it. -/
def IntegerEntry (n : Int) (entry : List Char) : Prop :=
  ∃ core, IntegerText n core ∧ Spaced core entry

/-- Whether a text is a list of integers. -/
def IntegerListText (ns : List Int) (text : List Char) : Prop :=
  ∃ entries, List.Forall₂ IntegerEntry ns entries ∧ ListText entries text

/-! ### What is read -/

/-- Blanks at the beginning are skipped. -/
theorem skip_space {before : List Char} (h : Space before) (cs : List Char) :
    skip (before ++ cs) = skip cs :=
  List.dropWhile_append_of_pos h

/-- Nothing is skipped in front of a character that is no blank. -/
theorem skip_of_head {c : Char} (h : isSpace c = false) (cs : List Char) :
    skip (c :: cs) = c :: cs :=
  List.dropWhile_cons_of_neg (Bool.eq_false_iff.1 h)

/-- A digit is no blank. -/
theorem not_isSpace_of_isDigit {c : Char} (h : c.isDigit) : isSpace c = false := by
  have hne {d : Char} (hd : d.isDigit = false) : c ≠ d := by
    rintro rfl
    exact Bool.false_ne_true (hd.symm.trans h)
  have hspaces : c ≠ ' ' ∧ c ≠ '\n' ∧ c ≠ '\r' ∧ c ≠ '\t' :=
    ⟨hne rfl, hne rfl, hne rfl, hne rfl⟩
  simp [isSpace, hspaces]

/-- Whether a text begins with what may stand behind an item of a list, or is empty. -/
def Ends (rest : List Char) : Prop := ∀ c ∈ rest.head?, isSpace c ∨ c = ',' ∨ c = ']'

/-- An item may have blanks behind it in front of what ends it. -/
theorem Ends.behind_space {after rest : List Char} (hafter : Space after) (hrest : Ends rest) :
    Ends (after ++ rest) := by
  cases after with
  | nil => exact hrest
  | cons c after =>
    intro d hd
    obtain rfl : c = d := Option.some.inj hd
    exact .inl (hafter c List.mem_cons_self)

/-- What may stand behind an item does not belong to a number. -/
theorem Ends.not_number {rest : List Char} (h : Ends rest) {c : Char} (hc : c ∈ rest.head?) :
    c.isDigit = false ∧ c ≠ '.' ∧ c ≠ 'e' ∧ c ≠ 'E' := by
  have hcases : c = ' ' ∨ c = '\n' ∨ c = '\r' ∨ c = '\t' ∨ c = ',' ∨ c = ']' := by
    simpa [isSpace, or_assoc] using h c hc
  rcases hcases with rfl | rfl | rfl | rfl | rfl | rfl <;> decide

/-- What was read, and what is left behind it. -/
def Reading.view {α : Type} {cs : List Char} (r : Reading α cs) : α × List Char := (r.value, r.rest)

/-- Whether a text with at most so many levels of lists and objects is read as a document, up to
what stands behind it. -/
def ReadAs (levels : Nat) (text : List Char) (d : Document) : Prop :=
  ∀ rest, Ends rest → ∃ tail, (readValue levels (skip (text ++ rest))).map Reading.view =
    some (d, tail) ∧ skip tail = skip rest

/-- A text that is read as a document up to its end is that document. -/
theorem parse_of_readAs {text : List Char} {d : Document} (h : ReadAs text.length text d) :
    parse text = some d := by
  obtain ⟨tail, hread, htail⟩ := h [] nofun
  rw [List.append_nil] at hread
  obtain ⟨r, hr, hview⟩ := Option.map_eq_some_iff.1 hread
  obtain ⟨hvalue, hrest⟩ := Prod.mk.inj hview
  have hempty : skip r.rest = [] := hrest ▸ htail
  simp only [parse, hr, hempty, hvalue, List.isEmpty_nil, if_true]

/-! ### Integers -/

/-- A run of digits is read up to what ends it. -/
theorem readDigits_append {digits rest : List Char} (hne : digits ≠ [])
    (hdigits : ∀ c ∈ digits, c.isDigit) (hrest : Ends rest) :
    readDigits (digits ++ rest) = some (digits, rest) := by
  obtain ⟨htake, hdrop⟩ := Text.span_of_head hdigits fun c hc => (hrest.not_number hc).1
  rw [readDigits, htake, hdrop, if_neg (by simpa using hne)]

/-- The digits in front of a point are read up to what ends them. -/
theorem WholeDigits.readWhole {digits rest : List Char} (h : WholeDigits digits)
    (hrest : Ends rest) : readWhole (digits ++ rest) = some (digits, rest) := by
  rw [Json.readWhole, readDigits_append h.ne_nil h.isDigit hrest]
  split
  · rename_i heq
    cases heq
    cases h.zero rfl
  · rfl

/-- What ends an item is no fraction. -/
theorem Ends.readFraction {rest : List Char} (h : Ends rest) :
    readFraction rest = some (none, rest) := by
  unfold Json.readFraction
  split
  · exact absurd rfl (h.not_number rfl).2.1
  · rfl

/-- What ends an item is no power of ten. -/
theorem Ends.readPower {rest : List Char} (h : Ends rest) : readPower rest = some (none, rest) := by
  unfold Json.readPower
  split
  · exact absurd rfl (h.not_number rfl).2.2.1
  · exact absurd rfl (h.not_number rfl).2.2.2
  · rfl

/-- A number without a point and without a power of ten is its sign and its digits. -/
theorem readNumber_of_whole {cs digits rest : List Char} {negative : Bool}
    (hsign : (cs.head? == some '-') = negative)
    (hwhole : readWhole (if negative then cs.tail else cs) = some (digits, rest))
    (hrest : Ends rest) : readNumber cs = some (⟨negative, digits, none, none⟩, rest) := by
  simp only [readNumber, Option.bind_eq_bind, hsign, hwhole, Option.bind_some, hrest.readFraction,
    hrest.readPower]

/-- An integer begins with a minus sign or a digit. -/
theorem IntegerText.head {n : Int} {core : List Char} (h : IntegerText n core) :
    ∃ c cs, core = c :: cs ∧ (c = '-' ∨ c.isDigit) := by
  cases h with
  | plain hdigits =>
    obtain ⟨c, cs, rfl⟩ := List.exists_cons_of_ne_nil hdigits.ne_nil
    exact ⟨c, cs, rfl, .inr (hdigits.isDigit c List.mem_cons_self)⟩
  | negative hdigits hpos => exact ⟨'-', _, rfl, .inl rfl⟩

/-- An integer is read as a number that is worth it, if 64 bits hold it. -/
theorem IntegerText.exists_number {n : Int} {core : List Char} (h : IntegerText n core) :
    ∃ number : NumberText, (∀ rest, Ends rest → readNumber (core ++ rest) = some (number, rest)) ∧
      ∀ w, Number.ofInt? n = some w → number.worth? = some w := by
  cases h with
  | plain hdigits =>
    refine ⟨⟨false, core, none, none⟩, fun rest hrest => ?_, fun w hw => ?_⟩
    · refine readNumber_of_whole ?_ (hdigits.readWhole hrest) hrest
      obtain ⟨c, cs, rfl⟩ := List.exists_cons_of_ne_nil hdigits.ne_nil
      apply beq_eq_false_iff_ne.2
      intro hminus
      obtain rfl : c = '-' := Option.some.inj hminus
      cases hdigits.isDigit '-' List.mem_cons_self
    · simp [NumberText.worth?, hw]
  | @negative digits hdigits hpos =>
    refine ⟨⟨true, digits, none, none⟩, fun rest hrest => ?_, fun w hw => ?_⟩
    · exact readNumber_of_whole rfl (hdigits.readWhole hrest) hrest
    · have hne : Decimal.value digits ≠ 0 := by omega
      simp [NumberText.worth?, hw, hne]

/-- A value that begins like none of the others is read as a number. -/
theorem readValue_of_head (levels : Nat) (c : Char) (cs : List Char)
    (hc : c ∉ ['[', '\x7b', '"', 'n', 't', 'f']) :
    (readValue (levels + 1) (c :: cs)).map Reading.view =
      (readNumber (c :: cs)).map (Prod.map .number id) := by
  simp only [List.mem_cons, List.not_mem_nil, or_false, not_or] at hc
  obtain ⟨hlist, hobject, hstring, hnull, htrue, hfalse⟩ := hc
  rw [readValue.eq_9 levels c cs hlist hobject hstring hnull htrue hfalse]
  split
  · rename_i hnone
    exact (congrArg (Option.map (Prod.map Document.number id)) hnone).symm
  · rename_i number tail hsome
    exact (congrArg (Option.map (Prod.map Document.number id)) hsome).symm

/-- A value that begins with a minus sign or a digit is a number. -/
theorem readValue_number {levels : Nat} {c : Char} {cs tail : List Char} {number : NumberText}
    (hc : c = '-' ∨ c.isDigit) (hread : readNumber (c :: cs) = some (number, tail)) :
    (readValue (levels + 1) (c :: cs)).map Reading.view = some (.number number, tail) := by
  have hhead : c ∉ ['[', '\x7b', '"', 'n', 't', 'f'] := by
    intro hmem
    rcases hc with rfl | hdigit
    · exact absurd hmem (by decide)
    · simp only [List.mem_cons, List.not_mem_nil, or_false] at hmem
      rcases hmem with rfl | rfl | rfl | rfl | rfl | rfl
      all_goals cases hdigit
  rw [readValue_of_head levels c cs hhead, hread]
  rfl

/-- An integer with blanks around it is read as a number that is worth the integer. -/
theorem IntegerEntry.exists_readAs {n : Int} {entry : List Char} (h : IntegerEntry n entry)
    (levels : Nat) :
    ∃ number : NumberText, ReadAs (levels + 1) entry (.number number) ∧
      ∀ w, Number.ofInt? n = some w → number.worth? = some w := by
  obtain ⟨core, hcore, before, after, hbefore, hafter, rfl⟩ := h
  obtain ⟨number, hread, hworth⟩ := hcore.exists_number
  obtain ⟨c, cs, rfl, hc⟩ := hcore.head
  refine ⟨number, fun rest hrest => ⟨after ++ rest, ?_, skip_space hafter rest⟩, hworth⟩
  have hspace : isSpace c = false := by
    rcases hc with rfl | hdigit
    · rfl
    · exact not_isSpace_of_isDigit hdigit
  rw [List.append_assoc, List.append_assoc, skip_space hbefore, List.cons_append,
    skip_of_head hspace]
  exact readValue_number hc (hread _ (hrest.behind_space hafter))

/-! ### Lists -/

/-- The last item of a list. -/
theorem readItems_last {read : (cs : List Char) → Option (Reading Document cs)}
    {cs tail rest : List Char} {d : Document}
    (hread : (read (skip cs)).map Reading.view = some (d, tail)) (htail : skip tail = ']' :: rest) :
    (readItems read cs).map Reading.view = some ([d], rest) := by
  obtain ⟨r, hr, hview⟩ := Option.map_eq_some_iff.1 hread
  obtain ⟨rfl, rfl⟩ := Prod.mk.inj hview
  rw [readItems, hr]
  dsimp only
  split
  · rename_i c after h
    obtain ⟨rfl, rfl⟩ := List.cons.inj (h.symm.trans htail)
    rfl
  · rename_i h
    cases h.symm.trans htail

/-- An item of a list in front of others. -/
theorem readItems_cons {read : (cs : List Char) → Option (Reading Document cs)}
    {cs tail after rest : List Char} {d : Document} {ds : List Document}
    (hread : (read (skip cs)).map Reading.view = some (d, tail))
    (htail : skip tail = ',' :: after)
    (hafter : (readItems read after).map Reading.view = some (ds, rest)) :
    (readItems read cs).map Reading.view = some (d :: ds, rest) := by
  obtain ⟨r, hr, hview⟩ := Option.map_eq_some_iff.1 hread
  obtain ⟨rfl, rfl⟩ := Prod.mk.inj hview
  obtain ⟨items, hitems, hview⟩ := Option.map_eq_some_iff.1 hafter
  obtain ⟨rfl, rfl⟩ := Prod.mk.inj hview
  rw [readItems, hr]
  dsimp only
  split
  · rename_i c after' h
    obtain ⟨rfl, rfl⟩ := List.cons.inj (h.symm.trans htail)
    rw [if_pos rfl, hitems]
    rfl
  · rename_i h
    cases h.symm.trans htail

/-- Items are read one by one, up to the bracket behind the last. -/
theorem readItems_entries {levels : Nat} {docs : List Document} {entries : List (List Char)}
    (h : List.Forall₂ (fun d entry => ReadAs levels entry d) docs entries) (hne : entries ≠ [])
    (rest : List Char) :
    (readItems (readValue levels) (List.intercalate [','] entries ++ ']' :: rest)).map
      Reading.view = some (docs, rest) := by
  induction h with
  | nil => exact absurd rfl hne
  | @cons d entry docs entries hd hdocs ih =>
    -- The bracket stands behind the last entry, and a comma behind every other.
    cases hdocs with
    | nil =>
      have hends : Ends (']' :: rest) := by
        rintro c hc
        exact .inr (.inr (Option.some.inj hc).symm)
      obtain ⟨tail, hread, htail⟩ := hd (']' :: rest) hends
      rw [List.intercalate_singleton]
      exact readItems_last hread htail
    | @cons d' entry' docs entries hd' hdocs =>
      have hends : Ends (',' :: (List.intercalate [','] (entry' :: entries) ++ ']' :: rest)) := by
        rintro c hc
        exact .inr (.inl (Option.some.inj hc).symm)
      obtain ⟨tail, hread, htail⟩ := hd _ hends
      have hsplit : List.intercalate [','] (entry :: entry' :: entries) ++ ']' :: rest =
          entry ++ ',' :: (List.intercalate [','] (entry' :: entries) ++ ']' :: rest) := by
        simp [List.intercalate_cons_cons]
      rw [hsplit]
      exact readItems_cons hread htail (ih (List.cons_ne_nil _ _))

/-- A bracket that closes a list begins no value. -/
theorem readValue_closing (levels : Nat) (cs : List Char) :
    readValue levels (']' :: cs) = none := by
  cases levels with
  | zero => rfl
  | succ levels =>
    have hnumber : readNumber (']' :: cs) = none := rfl
    have hview := readValue_of_head levels ']' cs (by decide)
    rw [hnumber] at hview
    exact Option.map_eq_none_iff.1 hview

/-- No value is read from nothing. -/
theorem readValue_nil (levels : Nat) : readValue levels [] = none := by
  cases levels with
  | zero => rfl
  | succ levels => rfl

/-- Where items can be read, the list does not close at once. -/
theorem readContents_items {levels : Nat} {cs rest : List Char} {docs : List Document}
    (h : (readItems (readValue levels) cs).map Reading.view = some (docs, rest)) :
    (readContents ']' [] (readItems (readValue levels)) cs).map Reading.view =
      some (docs, rest) := by
  have hsome : readValue levels (skip cs) ≠ none := by
    intro hnone
    rw [readItems, hnone] at h
    cases h
  rw [readContents]
  split
  · rename_i c after hskip
    have hc : c ≠ ']' := by
      rintro rfl
      exact hsome (hskip ▸ readValue_closing levels after)
    rw [if_neg hc]
    exact h
  · rename_i hskip
    exact absurd (hskip ▸ readValue_nil levels) hsome

/-- A list of entries is read as the list of the documents that they say. -/
theorem readAs_list {levels : Nat} {docs : List Document} {entries : List (List Char)}
    {text : List Char} (h : List.Forall₂ (fun d entry => ReadAs levels entry d) docs entries)
    (hne : entries ≠ []) (htext : ListText entries text) :
    ReadAs (levels + 1) text (.list docs) := by
  obtain ⟨before, after, hbefore, hafter, rfl⟩ := htext
  intro rest hrest
  refine ⟨after ++ rest, ?_, skip_space hafter rest⟩
  have htext : before ++ '[' :: (List.intercalate [','] entries ++ [']']) ++ after ++ rest =
      before ++ '[' :: (List.intercalate [','] entries ++ ']' :: (after ++ rest)) := by simp
  obtain ⟨items, hitems, hview⟩ :=
    Option.map_eq_some_iff.1 (readContents_items (readItems_entries h hne (after ++ rest)))
  obtain ⟨rfl, hrest⟩ := Prod.mk.inj hview
  rw [htext, skip_space hbefore, skip_of_head (by decide), readValue.eq_3, hitems]
  exact congrArg (fun tail => some (Document.list items.value, tail)) hrest

/-! ### Lists of integers -/

/-- What the entries of a list of integers say is worth these integers. -/
theorem exists_documents {ns : List Int} {ws : List Number} {entries : List (List Char)}
    (hentries : List.Forall₂ IntegerEntry ns entries)
    (hworth : List.Forall₂ (fun n w => Number.ofInt? n = some w) ns ws) (levels : Nat) :
    ∃ docs, List.Forall₂ (fun d entry => ReadAs (levels + 1) entry d) docs entries ∧
      ∀ depth, evaluateAll depth docs = some (ws.map .number) := by
  induction hentries generalizing ws with
  | nil =>
    cases hworth
    exact ⟨[], .nil, fun depth => rfl⟩
  | @cons n entry ns entries hentry _ ih =>
    cases hworth with
    | @cons _ w _ ws hw hws =>
      obtain ⟨number, hread, hnumber⟩ := hentry.exists_readAs levels
      obtain ⟨docs, hdocs, hvalues⟩ := ih hws
      refine ⟨.number number :: docs, .cons hread hdocs, fun depth => ?_⟩
      simp [evaluateAll, evaluate, hnumber w hw, hvalues depth]

/-- A list is longer than its entries by its brackets at least. -/
theorem ListText.length {entries : List (List Char)} {text : List Char}
    (h : ListText entries text) : (List.intercalate [','] entries).length + 2 ≤ text.length := by
  obtain ⟨before, after, -, -, rfl⟩ := h
  simp only [List.length_append, List.length_cons, List.length_nil]
  omega

/-- A list that holds a list of integers and nothing else is read as what it spells. -/
theorem Value.parse_integerList {ns : List Int} {ws : List Number} {inner text : List Char}
    (hinner : IntegerListText ns inner) (htext : ListText [inner] text) (hne : ns ≠ [])
    (hworth : List.Forall₂ (fun n w => Number.ofInt? n = some w) ns ws) :
    Value.parse text = some (.list [.list (ws.map .number)]) := by
  obtain ⟨entries, hentries, hlist⟩ := hinner
  have hlevels : ∃ levels, text.length = levels + 3 := by
    have houter := htext.length
    have hinner := hlist.length
    rw [List.intercalate_singleton] at houter
    exact ⟨text.length - 3, by omega⟩
  obtain ⟨levels, hlength⟩ := hlevels
  have hentriesNe : entries ≠ [] := by
    rintro rfl
    cases hentries
    exact hne rfl
  obtain ⟨docs, hdocs, hvalues⟩ := exists_documents hentries hworth levels
  have hread : ReadAs (levels + 3) text (.list [.list docs]) :=
    readAs_list (.cons (readAs_list hdocs hentriesNe hlist) .nil) (List.cons_ne_nil _ _) htext
  have hparse : Json.parse text = some (.list [.list docs]) := parse_of_readAs (hlength ▸ hread)
  simp [Value.parse, hparse, Document.value?, maxLevels, evaluate, evaluateAll, hvalues]

end SqlBinding.Json
