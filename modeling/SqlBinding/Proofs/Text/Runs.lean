import Mathlib.Data.List.DropRight
import SqlBinding.Text.Basic

/-!
# Runs of characters

Where a run of characters of one kind ends, and that blanks around a text are trimmed away and
nothing else.
-/

set_option autoImplicit false

namespace SqlBinding.Text

/-- A run of characters ends where the next one does not belong to it. -/
theorem span_of_head {p : Char → Bool} {cs rest : List Char} (hcs : ∀ c ∈ cs, p c)
    (hrest : ∀ c ∈ rest.head?, p c = false) :
    (cs ++ rest).takeWhile p = cs ∧ (cs ++ rest).dropWhile p = rest := by
  rw [List.takeWhile_append_of_pos hcs, List.dropWhile_append_of_pos hcs]
  cases rest with
  | nil => exact ⟨List.append_nil cs, rfl⟩
  | cons c rest => simp [hrest c rfl]

/-- Characters at the end that all belong to the run are dropped with it. -/
theorem rdropWhile_append_of_forall {p : Char → Bool} {tail : List Char} (htail : ∀ c ∈ tail, p c)
    (cs : List Char) : (cs ++ tail).rdropWhile p = cs.rdropWhile p := by
  induction tail using List.reverseRecOn with
  | nil => rw [List.append_nil]
  | append_singleton tail c ih =>
    rw [List.forall_mem_append] at htail
    have hc : p c := htail.2 c (List.mem_singleton_self c)
    rw [← List.append_assoc, List.rdropWhile_concat_pos p _ c hc, ih htail.1]

/-- What is kept of a text that goes on is at least what is kept of its beginning. -/
theorem rdropWhile_prefix_append (p : Char → Bool) (cs tail : List Char) :
    cs.rdropWhile p <+: (cs ++ tail).rdropWhile p := by
  induction tail using List.reverseRecOn with
  | nil => exact (List.append_nil cs).symm ▸ List.prefix_refl _
  | append_singleton tail c ih =>
    rw [← List.append_assoc, List.rdropWhile_concat]
    split
    · exact ih
    · exact (List.rdropWhile_prefix p cs).trans ((List.prefix_append cs tail).trans
        (List.prefix_append (cs ++ tail) [c]))

/-- Whether a text consists of blanks. -/
def Blank (cs : List Char) : Prop := ∀ c ∈ cs, isBlank c

instance (cs : List Char) : Decidable (Blank cs) :=
  decidable_of_iff (cs.all isBlank) List.all_eq_true

/-- Whether a text has no blanks in it. -/
def Solid (cs : List Char) : Prop := ∀ c ∈ cs, isBlank c = false

instance (cs : List Char) : Decidable (Solid cs) :=
  decidable_of_iff (cs.all fun c => !isBlank c) (by simp [Solid])

/-- Whether a text begins and ends with a character that is not blank. -/
def Tight (cs : List Char) : Prop :=
  (∃ c ∈ cs.head?, isBlank c = false) ∧ ∃ c ∈ cs.getLast?, isBlank c = false

/-- A text is tight if there are no blanks in the parts at its ends. -/
theorem tight_append {first last : List Char} (hfirst : Solid first) (hfirstNe : first ≠ [])
    (between : List Char) (hlast : Solid last) (hlastNe : last ≠ []) :
    Tight (first ++ (between ++ last)) := by
  obtain ⟨c, cs, rfl⟩ := List.exists_cons_of_ne_nil hfirstNe
  obtain ⟨d, hd⟩ := Option.ne_none_iff_exists'.1 (mt List.getLast?_eq_none_iff.1 hlastNe)
  refine ⟨⟨c, rfl, hfirst c List.mem_cons_self⟩, d, ?_, hlast d (List.mem_of_getLast? hd)⟩
  rw [List.getLast?_append, List.getLast?_append, hd]
  rfl

/-- A text without blanks begins and ends without blanks, unless it is empty. -/
theorem Solid.tight {cs : List Char} (h : Solid cs) (hne : cs ≠ []) : Tight cs := by
  obtain ⟨c, hc⟩ := Option.ne_none_iff_exists'.1 (mt List.head?_eq_none_iff.1 hne)
  obtain ⟨d, hd⟩ := Option.ne_none_iff_exists'.1 (mt List.getLast?_eq_none_iff.1 hne)
  exact ⟨⟨c, hc, h c (List.mem_of_mem_head? hc)⟩, d, hd, h d (List.mem_of_getLast? hd)⟩

/-- What stands behind a tight text leaves it tight if it does not end with a blank. -/
theorem Tight.append {cs tail : List Char} (h : Tight cs)
    (htail : ∀ c ∈ tail.getLast?, isBlank c = false) : Tight (cs ++ tail) := by
  obtain ⟨⟨first, hfirst, hfirstBlank⟩, last, hlast, hlastBlank⟩ := h
  refine ⟨⟨first, by rw [List.head?_append, hfirst]; rfl, hfirstBlank⟩, ?_⟩
  rw [List.getLast?_append]
  cases hend : tail.getLast? with
  | none => exact ⟨last, hlast, hlastBlank⟩
  | some c => exact ⟨c, rfl, htail c hend⟩

/-- Blanks in front of a text are taken off up to what is no blank. -/
theorem trimStart_blank {cs rest : List Char} (hcs : Blank cs)
    (hrest : ∀ c ∈ rest.head?, isBlank c = false) : trimStart (cs ++ rest) = rest :=
  (span_of_head hcs hrest).2

/-- Blanks around a text are trimmed away, and nothing else. -/
theorem trim_tight {before cs after : List Char} (hbefore : Blank before) (hcs : Tight cs)
    (hafter : Blank after) : trim (before ++ cs ++ after) = cs := by
  obtain ⟨⟨first, hfirst, hfirstBlank⟩, last, hlast, hlastBlank⟩ := hcs
  have hhead : ∀ c ∈ (cs ++ after).head?, isBlank c = false := by
    intro c hc
    rw [List.head?_append, Option.mem_def.1 hfirst] at hc
    rwa [← Option.some.inj hc]
  have htail : ∀ c ∈ cs.reverse.head?, isBlank c = false := by
    intro c hc
    rw [List.head?_reverse, Option.mem_def.1 hlast] at hc
    rwa [← Option.some.inj hc]
  have hend : Blank after.reverse := fun c hc => hafter c (List.mem_reverse.1 hc)
  rw [trim, List.append_assoc, trimStart_blank hbefore hhead, trimEnd, dropEndWhile,
    List.reverse_append, (span_of_head hend htail).2, List.reverse_reverse]

/-- Nothing is taken off a text that begins and ends without blanks. -/
theorem trim_eq_self {cs : List Char} (h : Tight cs) : trim cs = cs := by
  have hnil : Blank [] := nofun
  have htrim := trim_tight hnil h hnil
  rwa [List.append_nil, List.nil_append] at htrim

/-- Blanks that are put around a text are trimmed away with those at its ends. -/
theorem trim_between_blanks {before after : List Char} (hbefore : Blank before)
    (hafter : Blank after) (cs : List Char) : trim (before ++ cs ++ after) = trim cs := by
  rw [List.append_assoc, trim, trimStart, List.dropWhile_append_of_pos hbefore,
    List.dropWhile_append, trim, trimStart]
  split
  · rename_i hcs
    rw [List.isEmpty_iff.1 hcs, List.dropWhile_eq_nil_iff.2 hafter]
  · exact rdropWhile_append_of_forall hafter _

/-- What is taken off a text is blanks on both sides. -/
theorem exists_trim (cs : List Char) :
    ∃ before after, cs = before ++ trim cs ++ after ∧ Blank before ∧ Blank after := by
  refine ⟨cs.takeWhile isBlank, (trimStart cs).rtakeWhile isBlank, ?_,
    fun c hc => List.mem_takeWhile_imp hc, fun c hc => List.mem_rtakeWhile_imp hc⟩
  have hend : trim cs ++ (trimStart cs).rtakeWhile isBlank = trimStart cs :=
    List.rdropWhile_append_rtakeWhile
  rw [List.append_assoc, hend]
  exact List.takeWhile_append_dropWhile.symm

/-- Digits are not blank. -/
theorem isBlank_of_isDigit {c : Char} (h : c.isDigit) : isBlank c = false := by
  simp only [Char.isDigit, Bool.and_eq_true, decide_eq_true_eq] at h
  have hmin : 48 ≤ c.toNat := h.1
  have hmax : c.toNat ≤ 57 := h.2
  simp [isBlank]
  omega

end SqlBinding.Text
