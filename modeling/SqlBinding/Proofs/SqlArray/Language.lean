import Mathlib.Algebra.Group.Nat.Defs
import Mathlib.Data.List.Forall2
import SqlBinding.SqlArray.Grammar

/-!
# The language of array text

What array text is, said without a reader. `ArrayText d dims src elements` holds of the array texts
with delimiter `d` whose entry counts are `dims`, from the outside in, and whose elements from left
to right are `elements`: the number of dimensions is the number of levels of braces, and all
sub-arrays of one depth have the same number of entries, since `dims` holds of all of them.
-/

set_option autoImplicit false

namespace SqlBinding.SqlArray

/-- What may stand between the quotes of a quoted element, and the text that it spells. -/
inductive QuotedText : List Char → List Char → Prop
  | nil : QuotedText [] []
  | plain {c : Char} {s text : List Char} :
    c ≠ '"' → c ≠ '\\' → QuotedText s text → QuotedText (c :: s) (c :: text)
  /-- A backslash takes the next character. -/
  | escaped {c : Char} {s text : List Char} :
    QuotedText s text → QuotedText ('\\' :: c :: s) (c :: text)

/-- An element, quoted or bare, and what it stands for. -/
inductive ElementText (d : Char) : List Char → Option (List Char) → Prop
  | quoted {s text : List Char} :
    QuotedText s text → ElementText d ('"' :: s ++ ['"']) (some text)
  | bare {s : List Char} : (∀ c ∈ s, isBare d c) → ElementText d s (bareElement s)

/-- An array text with the given entry counts and elements. Braces with nothing between them hold no
element at the innermost level, rather than an empty one; the other levels hold at least one
array. -/
def ArrayText (d : Char) : List Nat → List Char → Elements → Prop
  | [], _, _ => False
  | [n], src, elements =>
    ∃ texts, texts.length = n ∧ texts ≠ [[]] ∧ List.Forall₂ (ElementText d) texts elements ∧
      src = braced d texts
  | n :: m :: dims, src, elements =>
    ∃ texts parts, texts.length = n ∧ texts ≠ [] ∧
      List.Forall₂ (ArrayText d (m :: dims)) texts parts ∧ elements = parts.flatten ∧
      src = braced d texts

/-- Parts of one length have their common length times their number. -/
theorem length_flatten_of_forall₂ {α β : Type} {texts : List α} {parts : List (List β)} {k : Nat}
    (h : List.Forall₂ (fun _ part => part.length = k) texts parts) :
    parts.flatten.length = texts.length * k := by
  induction h with
  | nil => simp
  | cons hpart _ ih => simp [hpart, ih, Nat.add_mul, Nat.add_comm]

/-- The elements of an array text fill its dimensions. -/
theorem ArrayText.length_elements {d : Char} {dims : List Nat} {src : List Char}
    {elements : Elements} (h : ArrayText d dims src elements) :
    elements.length = dims.prod := by
  induction dims generalizing src elements with
  | nil => exact absurd h id
  | cons n dims ih =>
    cases dims with
    | nil =>
      obtain ⟨texts, rfl, -, helements, -⟩ := h
      simpa using helements.length_eq.symm
    | cons m dims =>
      obtain ⟨texts, parts, rfl, -, hparts, rfl, -⟩ := h
      simp [length_flatten_of_forall₂ (hparts.imp fun _ _ hpart => ih hpart)]

end SqlBinding.SqlArray
