import SqlBinding.Proofs.Text.Runs
import SqlBinding.Statement

/-!
# Where a returning clause goes

The clause goes behind a statement without its end, which is blanks, semicolons and blanks again:
one run of semicolons, as long as there is one (`OneRun`). Of an end with several runs the last one
is dropped only, and the clause comes to stand behind a semicolon.
-/

set_option autoImplicit false

namespace SqlBinding.Statement

open Text

/-- Whether a character may end a statement without being part of it. -/
def isClosing (c : Char) : Bool := c == ';' || isBlank c

/-- Whether a text is a run of semicolons, which may be empty, between blanks. -/
def OneRun (tail : List Char) : Prop :=
  ∃ before marks after, tail = before ++ marks ++ after ∧
    Blank before ∧ (∀ c ∈ marks, c = ';') ∧ Blank after

/-- One run of semicolons consists of characters that may end a statement. -/
theorem OneRun.forall_isClosing {tail : List Char} (h : OneRun tail) : ∀ c ∈ tail, isClosing c := by
  obtain ⟨before, marks, after, rfl, hbefore, hmarks, hafter⟩ := h
  intro c hc
  rw [List.mem_append, List.mem_append] at hc
  rcases hc with (hc | hc) | hc
  · simp [isClosing, hbefore c hc]
  · simp [isClosing, hmarks c hc]
  · simp [isClosing, hafter c hc]

/-- A statement without what stands behind it as one run of semicolons. -/
def beforeClause (statement : List Char) : List Char :=
  ((statement.rdropWhile isBlank).rdropWhile (· == ';')).rdropWhile isBlank

/-- The clause is put behind what stands in front of the run. -/
theorem withReturning_eq (statement field : List Char) :
    withReturning statement field = beforeClause statement ++ " RETURNING ".toList ++ field := rfl

/-- What a statement loses is one run of semicolons at its end. -/
theorem exists_dropped (statement : List Char) :
    ∃ dropped, statement = beforeClause statement ++ dropped ∧ OneRun dropped := by
  let marked := statement.rdropWhile isBlank
  let unmarked := marked.rdropWhile (· == ';')
  have hbefore : unmarked.rdropWhile isBlank ++ unmarked.rtakeWhile isBlank = unmarked :=
    List.rdropWhile_append_rtakeWhile
  have hmarks : unmarked ++ marked.rtakeWhile (· == ';') = marked :=
    List.rdropWhile_append_rtakeWhile
  have hafter : marked ++ statement.rtakeWhile isBlank = statement :=
    List.rdropWhile_append_rtakeWhile
  refine ⟨unmarked.rtakeWhile isBlank ++ marked.rtakeWhile (· == ';') ++
    statement.rtakeWhile isBlank, ?_, _, _, _, rfl, ?_, ?_, ?_⟩
  · calc statement
        = unmarked.rdropWhile isBlank ++ unmarked.rtakeWhile isBlank ++
            marked.rtakeWhile (· == ';') ++ statement.rtakeWhile isBlank := by
          rw [hbefore, hmarks, hafter]
      _ = _ := by simp only [List.append_assoc]; rfl
  · exact fun c hc => List.mem_rtakeWhile_imp hc
  · exact fun c hc => eq_of_beq (List.mem_rtakeWhile_imp (p := (· == ';')) hc)
  · exact fun c hc => List.mem_rtakeWhile_imp hc

/-- No more can be dropped as one run of semicolons. -/
theorem beforeClause_prefix {tail : List Char} (h : OneRun tail) (rest : List Char) :
    beforeClause (rest ++ tail) <+: rest := by
  obtain ⟨before, marks, after, rfl, hbefore, hmarks, hafter⟩ := h
  have hmark : ∀ c ∈ marks, (c == ';') = true := fun c hc => beq_iff_eq.2 (hmarks c hc)
  -- Each part of the tail is dropped with the run that it belongs to, if not before.
  have hfirst : (rest ++ (before ++ marks ++ after)).rdropWhile isBlank <+:
      rest ++ before ++ marks := by
    rw [← List.append_assoc, ← List.append_assoc, rdropWhile_append_of_forall hafter]
    exact List.rdropWhile_prefix _ _
  obtain ⟨more, hmore⟩ := hfirst
  have hsecond : ((rest ++ (before ++ marks ++ after)).rdropWhile isBlank).rdropWhile (· == ';') <+:
      rest ++ before := by
    refine (rdropWhile_prefix_append _ _ more).trans ?_
    rw [hmore, rdropWhile_append_of_forall hmark]
    exact List.rdropWhile_prefix _ _
  obtain ⟨more', hmore'⟩ := hsecond
  refine (rdropWhile_prefix_append _ _ more').trans ?_
  rw [hmore', rdropWhile_append_of_forall hbefore]
  exact List.rdropWhile_prefix _ _

/-- The bare statement is what is left of what the clause goes behind. -/
theorem rdropWhile_beforeClause (statement : List Char) :
    (beforeClause statement).rdropWhile isClosing = statement.rdropWhile isClosing := by
  obtain ⟨dropped, hstatement, hdropped⟩ := exists_dropped statement
  conv_rhs => rw [hstatement, rdropWhile_append_of_forall hdropped.forall_isClosing]

/-- The clause goes behind the bare statement exactly if there is one run of semicolons behind
it. -/
theorem beforeClause_eq_iff (statement : List Char) :
    beforeClause statement = statement.rdropWhile isClosing ↔
      OneRun (statement.rtakeWhile isClosing) := by
  have hbare := List.rdropWhile_append_rtakeWhile (p := isClosing) (l := statement)
  constructor
  · intro h
    obtain ⟨dropped, hstatement, hdropped⟩ := exists_dropped statement
    rw [h] at hstatement
    rwa [List.append_cancel_left (hbare.trans hstatement)]
  · intro h
    have hprefix := beforeClause_prefix h (statement.rdropWhile isClosing)
    rw [hbare] at hprefix
    refine hprefix.eq_of_length_le ?_
    rw [← rdropWhile_beforeClause]
    exact (List.rdropWhile_prefix isClosing _).length_le

/-- The clause comes to stand behind a semicolon exactly if there are several runs of them. -/
theorem getLast?_beforeClause_iff (statement : List Char) :
    (beforeClause statement).getLast? = some ';' ↔
      ¬ OneRun (statement.rtakeWhile isClosing) := by
  have hopen : OneRun (statement.rtakeWhile isClosing) ↔
      ∀ hne, ¬ isClosing ((beforeClause statement).getLast hne) := by
    rw [← beforeClause_eq_iff, ← rdropWhile_beforeClause, eq_comm, List.rdropWhile_eq_self_iff]
  rw [hopen]
  constructor
  · intro hlast hnot
    obtain ⟨kept, hkept⟩ := List.getLast?_eq_some_iff.1 hlast
    simp [hkept, isClosing] at hnot
  · intro hclosed
    push Not at hclosed
    obtain ⟨hne, hlast⟩ := hclosed
    have hblank : ¬ isBlank ((beforeClause statement).getLast hne) :=
      List.rdropWhile_last_not _ _ hne
    have hmark : (beforeClause statement).getLast hne = ';' := by
      simpa [isClosing, hblank] using hlast
    rw [List.getLast?_eq_some_getLast hne, hmark]

/-- The clause goes behind the statement without the longest end that is one run of semicolons
between blanks. This is the statement without all the semicolons and blanks at its end exactly if
these are one run, and otherwise the clause stands behind a semicolon. -/
theorem withReturning_bare_iff (statement field : List Char) :
    (∃ kept dropped, statement = kept ++ dropped ∧
      withReturning statement field = kept ++ " RETURNING ".toList ++ field ∧
      OneRun dropped ∧ (∀ tail, tail <:+ statement → OneRun tail → tail <:+ dropped) ∧
      (kept.getLast? = some ';' ↔ ¬ OneRun (statement.rtakeWhile isClosing))) ∧
    (withReturning statement field =
        statement.rdropWhile isClosing ++ " RETURNING ".toList ++ field ↔
      OneRun (statement.rtakeWhile isClosing)) := by
  obtain ⟨dropped, hstatement, hdropped⟩ := exists_dropped statement
  refine ⟨⟨beforeClause statement, dropped, hstatement, withReturning_eq statement field, hdropped,
    ?_, getLast?_beforeClause_iff statement⟩, ?_⟩
  · rintro tail ⟨rest, hrest⟩ htail
    obtain ⟨more, hmore⟩ := hrest ▸ beforeClause_prefix htail rest
    have hends : beforeClause statement ++ (more ++ tail) = beforeClause statement ++ dropped := by
      rw [← List.append_assoc, hmore, hrest, ← hstatement]
    exact ⟨more, List.append_cancel_left hends⟩
  · rw [withReturning_eq, List.append_cancel_right_eq, List.append_cancel_right_eq,
      beforeClause_eq_iff]

/-- Of two semicolons with a blank between them the first one is kept. -/
theorem withReturning_keeps_semicolon :
    ¬ ∀ statement field, withReturning statement field =
      statement.rdropWhile isClosing ++ " RETURNING ".toList ++ field := by
  intro h
  have hclause := h "DELETE FROM t; ;".toList "id".toList
  revert hclause
  decide

end SqlBinding.Statement
