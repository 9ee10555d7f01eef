import Mathlib.Data.List.TakeWhile
import SqlBinding.Proofs.Outcome
import SqlBinding.Proofs.SqlArray.Language

/-!
# Parsing accepts exactly the language

`parse` is sound and complete for `ArrayText`. Each of its readers is: what the reader of a level
takes off the front of a text is an array text of that level behind its opening brace, and it takes
any such text off the front of whatever follows. The shapes of siblings enter through `fits`.
-/

set_option autoImplicit false

namespace SqlBinding.SqlArray

variable {d : Char} {cs rest text : List Char} {e : Option (List Char)}

/-- A quote ends what is quoted. -/
theorem readQuoted_quote (rest : List Char) : readQuoted ('"' :: rest) = some ([], rest) := by
  rw [readQuoted.eq_def]
  rfl

/-- The character behind a backslash is taken for itself. -/
theorem readQuoted_escape (c : Char) (rest : List Char) :
    readQuoted ('\\' :: c :: rest) =
      (readQuoted rest).map fun (text, tail) => (c :: text, tail) := by
  rw [readQuoted.eq_def]
  rfl

/-- Any other character is taken for itself. -/
theorem readQuoted_of_ne {c : Char} (hquote : c ≠ '"') (hslash : c ≠ '\\') (rest : List Char) :
    readQuoted (c :: rest) = (readQuoted rest).map fun (text, tail) => (c :: text, tail) := by
  rw [readQuoted.eq_def]
  simp [hquote, hslash]

/-- A quoted element that is read is one. -/
theorem readQuoted_sound (h : readQuoted cs = some (text, rest)) :
    ∃ s, cs = s ++ '"' :: rest ∧ QuotedText s text := by
  fun_induction readQuoted cs generalizing text with
  | case1 => simp at h
  | case2 =>
    cases h
    exact ⟨[], rfl, .nil⟩
  | case3 => simp at h
  | case4 c after _ ih =>
    obtain ⟨⟨t, r⟩, hread, heq⟩ := Option.map_eq_some_iff.1 h
    cases heq
    obtain ⟨s, rfl, hs⟩ := ih hread
    exact ⟨'\\' :: c :: s, rfl, .escaped hs⟩
  | case5 c after hquote hslash ih =>
    obtain ⟨⟨t, r⟩, hread, heq⟩ := Option.map_eq_some_iff.1 h
    cases heq
    obtain ⟨s, rfl, hs⟩ := ih hread
    exact ⟨c :: s, rfl, .plain hquote hslash hs⟩

/-- A quoted element is read up to its closing quote. -/
theorem readQuoted_complete {s : List Char} (h : QuotedText s text) :
    readQuoted (s ++ '"' :: rest) = some (text, rest) := by
  induction h with
  | nil => exact readQuoted_quote rest
  | plain hquote hslash _ ih => simp [readQuoted_of_ne hquote hslash, ih]
  | escaped _ ih => simp [readQuoted_escape, ih]

/-- An element that is read is one. -/
theorem readElement_sound (h : readElement d cs = some (e, rest)) :
    ∃ s, cs = s ++ rest ∧ ElementText d s e := by
  unfold readElement at h
  split at h
  · obtain ⟨⟨t, r⟩, hread, heq⟩ := Option.map_eq_some_iff.1 h
    cases heq
    obtain ⟨s, rfl, hs⟩ := readQuoted_sound hread
    exact ⟨'"' :: s ++ ['"'], by simp, .quoted hs⟩
  · cases h
    refine ⟨cs.takeWhile (isBare d), List.takeWhile_append_dropWhile.symm, .bare fun c hc => ?_⟩
    exact List.mem_takeWhile_imp hc

/-- An element is read up to a character that ends bare elements and is no quote. -/
theorem readElement_complete {s : List Char} {c : Char} (h : ElementText d s e)
    (hbare : isBare d c = false) (hquote : c ≠ '"') :
    readElement d (s ++ c :: rest) = some (e, c :: rest) := by
  cases h with
  | quoted hs => simp [readElement, readQuoted_complete hs]
  | bare hs =>
    have hhead : ∀ r, s ++ c :: rest ≠ '"' :: r := by
      intro r heq
      cases s with
      | nil => exact hquote (List.cons.inj heq).1
      | cons x xs =>
        obtain ⟨rfl, -⟩ := List.cons.inj heq
        simpa [isBare] using hs '"' (by simp)
    unfold readElement
    split
    · exact absurd ‹_› (hhead _)
    · simp [List.takeWhile_append_of_pos hs, List.dropWhile_append_of_pos hs, hbare]

/-- What the reading of a level is told by: the elements, the shape and the rest of the text. -/
def Level.view {cs : List Char} (level : Level cs) : Elements × List Nat × List Char :=
  (level.elements, level.shape, level.rest)

/-- What is read behind an entry of a level: what `after` reads behind a delimiter, or the closing
brace of the level, which then has the given shape. -/
def readBehind (d : Char) (known : Option (List Nat)) (shape : List Nat) (entry : Elements)
    (after : List Char → Except Stop (Elements × List Nat × List Char)) :
    List Char → Except Stop (Elements × List Nat × List Char)
  | [] => .error (.unexpected [] "delimiter or '\x7d'")
  | c :: rest =>
    if c = d then (after rest).map fun (more, shape, tail) => (entry ++ more, shape, tail)
    else if c = '\x7d' then if fits known shape then .ok (entry, shape, rest) else .error .ragged
    else .error (.unexpected (c :: rest) "delimiter or '\x7d'")

section Behind

variable {known : Option (List Nat)} {shape shape' : List Nat} {entry elements more : Elements}
  {after : List Char → Except Stop (Elements × List Nat × List Char)}

/-- Behind an entry stands a delimiter with the other entries, or the end of the level. -/
theorem readBehind_sound
    (h : readBehind d known shape entry after cs = .ok (elements, shape', rest)) :
    (∃ tail more, cs = d :: tail ∧ after tail = .ok (more, shape', rest) ∧
        elements = entry ++ more) ∨
      (cs = '\x7d' :: rest ∧ elements = entry ∧ shape' = shape ∧ fits known shape) := by
  cases cs with
  | nil => cases h
  | cons c tail =>
    rw [readBehind] at h
    split at h
    · subst c
      obtain ⟨⟨more, shape', rest⟩, hmore, heq⟩ := Outcome.map_eq_ok_iff.1 h
      cases heq
      exact .inl ⟨tail, more, rfl, hmore, rfl⟩
    · split at h
      · subst c
        split at h
        · cases h
          exact .inr ⟨rfl, rfl, rfl, ‹_›⟩
        · cases h
      · cases h

/-- Behind a delimiter the other entries are read. -/
theorem readBehind_delimiter {tail : List Char} (h : after tail = .ok (more, shape', rest)) :
    readBehind d known shape entry after (d :: tail) = .ok (entry ++ more, shape', rest) := by
  rw [readBehind, if_pos rfl, h]
  rfl

/-- A closing brace ends a level whose shape fits. -/
theorem readBehind_closing (hclose : d ≠ '\x7d') (hfits : fits known shape) :
    readBehind d known shape entry after ('\x7d' :: rest) = .ok (entry, shape, rest) := by
  rw [readBehind, if_neg hclose.symm, if_pos rfl, if_pos hfits]

end Behind

/-- The innermost level, entry by entry. -/
theorem readItems_view (d : Char) (known : Option (List Nat)) (count : Nat) (cs : List Char) :
    (readItems d known count cs).map Level.view =
      match readEntry d count cs with
      | none => .error (.unexpected [] "'\"'")
      | some (entry, rest) =>
        readBehind d known [count + entry.length] entry
          (fun rest => (readItems d known (count + entry.length) rest).map Level.view) rest := by
  rw [readItems]
  split
  · simp_all [Except.map]
  · simp_all [Except.map, readBehind]
  · rename_i entry c rest hentry
    simp only [hentry, readBehind]
    split
    · cases readItems d known (count + entry.length) rest <;> rfl
    · split
      · split <;> rfl
      · rfl

/-- An outer level, array by array. -/
theorem readRows_view (d : Char)
    (read : Option (List Nat) → (cs : List Char) → Except Stop (Level cs))
    (known inner : Option (List Nat)) (count : Nat) (cs : List Char) :
    (readRows d read known inner count ('\x7b' :: cs)).map Level.view =
      match (read inner cs).map Level.view with
      | .error stop => .error stop
      | .ok (elements, shape, rest) =>
        readBehind d known ((count + 1) :: shape) elements
          (fun rest => (readRows d read known (some shape) (count + 1) rest).map Level.view)
          rest := by
  rw [readRows.eq_1]
  cases hread : read inner cs with
  | error stop => rfl
  | ok level =>
    obtain ⟨elements, shape, rest, hlt⟩ := level
    cases rest with
    | nil => rfl
    | cons c rest =>
      by_cases hd : c = d
      · simp only [Except.map, Level.view, readBehind, if_pos hd]
        cases readRows d read known (some shape) (count + 1) rest <;> rfl
      · by_cases hclose : c = '\x7d'
        · simp only [Except.map, Level.view, readBehind, if_neg hd, if_pos hclose]
          cases fits known ((count + 1) :: shape) <;> rfl
        · simp only [Except.map, Level.view, readBehind, if_neg hd, if_neg hclose]

/-- An entry without braces where its siblings have them makes the array ragged. -/
theorem readRows_of_ne (d : Char)
    (read : Option (List Nat) → (cs : List Char) → Except Stop (Level cs))
    (known inner : Option (List Nat)) (count : Nat) {cs : List Char} (h : cs.head? ≠ some '\x7b') :
    readRows d read known inner count cs = .error .ragged := by
  unfold readRows
  split
  · exact absurd rfl h
  · rfl

/-- The next entry of an innermost level, when it is an element and not the end of an empty
level. -/
theorem readEntry_of_element {count : Nat} (h : count = 0 → cs.head? ≠ some '\x7d') :
    readEntry d count cs = (readElement d cs).map fun (element, rest) => ([element], rest) := by
  unfold readEntry
  rw [if_neg fun hclose => h hclose.1 hclose.2]

/-- A level that is closed at once has no entries. -/
theorem readEntry_of_empty (rest : List Char) :
    readEntry d 0 ('\x7d' :: rest) = some ([], '\x7d' :: rest) := by
  simp [readEntry]

/-- An entry that is read is an element, or nothing in front of the brace of an empty level. -/
theorem readEntry_sound {count : Nat} {entry : Elements}
    (h : readEntry d count cs = some (entry, rest)) :
    (count = 0 ∧ entry = [] ∧ rest = cs ∧ cs.head? = some '\x7d') ∨
      ∃ s e, entry = [e] ∧ cs = s ++ rest ∧ ElementText d s e ∧
        (count = 0 → cs.head? ≠ some '\x7d') := by
  unfold readEntry at h
  split at h
  · cases h
    exact .inl ⟨‹_ ∧ _›.1, rfl, rfl, ‹_ ∧ _›.2⟩
  · rename_i hclose
    obtain ⟨⟨e, r⟩, hread, heq⟩ := Option.map_eq_some_iff.1 h
    cases heq
    obtain ⟨s, hs, he⟩ := readElement_sound hread
    exact .inr ⟨s, e, rfl, hs, he, fun h0 hhead => hclose ⟨h0, hhead⟩⟩

/-- What is read of an innermost level are elements with delimiters between them, up to the
brace. -/
theorem readItems_sound (hd : d ≠ '\x7d') {known : Option (List Nat)} {count : Nat}
    {elements : Elements} {shape : List Nat}
    (h : (readItems d known count cs).map Level.view = .ok (elements, shape, rest)) :
    ∃ texts, List.Forall₂ (ElementText d) texts elements ∧
      cs = List.intercalate [d] texts ++ '\x7d' :: rest ∧ shape = [count + texts.length] ∧
      fits known shape ∧ (count = 0 → texts ≠ [[]]) ∧ (0 < count → texts ≠ []) := by
  induction hn : cs.length using Nat.strongRecOn generalizing cs count elements with
  | ind n ih =>
    subst hn
    rw [readItems_view] at h
    split at h
    · cases h
    · rename_i entry behind hentry
      rcases readBehind_sound h with ⟨tail, more, rfl, hmore, rfl⟩ | ⟨rfl, rfl, rfl, hfits⟩
      · have hlt : tail.length < cs.length := by
          have := readEntry_length hentry
          simp only [List.length_cons] at this
          omega
        obtain ⟨texts, helems, hcs, hshape, hfits, -, hne⟩ := ih _ hlt hmore rfl
        rcases readEntry_sound hentry with ⟨-, -, htail, hhead⟩ | ⟨s, e, rfl, hs, he, -⟩
        · -- An empty level ends at once, so no delimiter is behind it.
          rw [← htail] at hhead
          exact absurd (Option.some.inj hhead) hd
        · have hne := hne (by simp)
          refine ⟨s :: texts, .cons he helems, ?_, ?_, hfits, ?_, by simp⟩
          · rw [hs, hcs, List.intercalate_cons_of_ne_nil hne]
            simp
          · rw [hshape]
            simp
            omega
          · simp [hne]
      · rcases readEntry_sound hentry with
          ⟨rfl, rfl, htail, hhead⟩ | ⟨s, e, rfl, hs, he, hfirst⟩
        · exact ⟨[], .nil, by simp [htail, List.intercalate], by simp, hfits, by simp, by simp⟩
        · refine ⟨[s], .cons he .nil, by simp [hs, List.intercalate], by simp, hfits, ?_, by simp⟩
          rintro h0 hempty
          obtain rfl : s = [] := by simpa using hempty
          exact hfirst h0 (by simp [hs])

/-- The delimiter ends a bare element. -/
theorem isBare_delimiter (d : Char) : isBare d d = false := by
  simp [isBare]

/-- A closing brace ends a bare element. -/
theorem isBare_closing (d : Char) : isBare d '\x7d' = false := by
  simp [isBare]

/-- No element begins with a closing brace. -/
theorem ElementText.head?_ne {s : List Char} (h : ElementText d s e) :
    s.head? ≠ some '\x7d' := by
  cases h with
  | quoted hs => simp
  | bare hs =>
    intro hhead
    have hmem : '\x7d' ∈ s := List.mem_of_head? hhead
    simpa [isBare_closing] using hs _ hmem

/-- Elements with delimiters between them are read up to the brace behind them. -/
theorem readItems_complete (hclose : d ≠ '\x7d') (hquote : d ≠ '"') {known : Option (List Nat)}
    {texts : List (List Char)} {elements : Elements}
    (h : List.Forall₂ (ElementText d) texts elements) {count : Nat}
    (hfirst : count = 0 → texts ≠ [[]]) (hlater : 0 < count → texts ≠ [])
    (hfits : fits known [count + texts.length]) :
    (readItems d known count (List.intercalate [d] texts ++ '\x7d' :: rest)).map Level.view =
      .ok (elements, [count + texts.length], rest) := by
  induction h generalizing count with
  | nil =>
    obtain rfl : count = 0 := by
      by_contra hne
      exact hlater (Nat.pos_of_ne_zero hne) rfl
    have hfits : fits known [0] := hfits
    rw [readItems_view]
    simpa [List.intercalate, readEntry_of_empty] using readBehind_closing hclose hfits
  | @cons s e texts elements he hrest ih =>
    -- What stands behind an element ends it, whether another one follows or the brace.
    rw [readItems_view]
    cases hrest with
    | nil =>
      have hentry : readEntry d count (s ++ '\x7d' :: rest) = some ([e], '\x7d' :: rest) := by
        rw [readEntry_of_element, readElement_complete he (isBare_closing d) (by decide)]
        · rfl
        · rintro h0 hhead
          cases s with
          | nil => exact hfirst h0 rfl
          | cons c s => exact he.head?_ne hhead
      have hfits : fits known [count + 1] := hfits
      simpa [List.intercalate, hentry] using readBehind_closing hclose hfits
    | @cons s' e' texts' elements' he' hrest' =>
      have hentry : ∀ tail, readEntry d count (s ++ d :: tail) = some ([e], d :: tail) := by
        intro tail
        rw [readEntry_of_element, readElement_complete he (isBare_delimiter d) hquote]
        · rfl
        · rintro - hhead
          cases s with
          | nil => exact hclose (Option.some.inj hhead)
          | cons c s => exact he.head?_ne hhead
      have hcount : count + (s :: s' :: texts').length =
          count + 1 + (s' :: texts').length := by
        simp only [List.length_cons]
        omega
      rw [hcount] at hfits ⊢
      have hmore := ih (by simp) (by simp) hfits
      rw [List.intercalate_cons_of_ne_nil (by simp), List.append_assoc, List.append_assoc]
      simp only [List.singleton_append, hentry, List.length_singleton]
      exact readBehind_delimiter hmore

section Rows

/- An outer level is read alike whatever reads its arrays, as long as that takes array texts of one
number of dimensions. -/
variable {read : Option (List Nat) → (cs : List Char) → Except Stop (Level cs)}
  {known inner : Option (List Nat)} {count : Nat} {elements : Elements} {shape : List Nat}

/-- Whether what `read` takes behind an opening brace is an array text of `levels` dimensions. -/
def Sound (d : Char) (levels : Nat)
    (read : Option (List Nat) → (cs : List Char) → Except Stop (Level cs)) : Prop :=
  ∀ known cs elements shape rest,
    (read known cs).map Level.view = .ok (elements, shape, rest) →
      ∃ src, '\x7b' :: cs = src ++ rest ∧ ArrayText d shape src elements ∧
        shape.length = levels ∧ fits known shape

/-- Whether `read` takes every array text of `levels` dimensions that stands behind an opening
brace, if its shape is one that may stand there. -/
def Complete (d : Char) (levels : Nat)
    (read : Option (List Nat) → (cs : List Char) → Except Stop (Level cs)) : Prop :=
  ∀ known cs elements shape rest,
    ArrayText d shape ('\x7b' :: cs) elements → shape.length = levels → fits known shape →
      (read known (cs ++ rest)).map Level.view = .ok (elements, shape, rest)

/-- Every array text begins with an opening brace. -/
theorem ArrayText.head {src : List Char} (h : ArrayText d shape src elements) :
    ∃ cs, src = '\x7b' :: cs := by
  cases shape with
  | nil => exact absurd h id
  | cons n dims =>
    cases dims with
    | nil =>
      obtain ⟨texts, -, -, -, rfl⟩ := h
      exact ⟨_, rfl⟩
    | cons m dims =>
      obtain ⟨texts, parts, -, -, -, -, rfl⟩ := h
      exact ⟨_, rfl⟩

/-- What is read of an outer level are arrays of one shape with delimiters between them, up to the
brace. -/
theorem readRows_sound {levels : Nat} (hread : Sound d levels read)
    (h : (readRows d read known inner count cs).map Level.view = .ok (elements, shape, rest)) :
    ∃ texts parts dims, List.Forall₂ (ArrayText d dims) texts parts ∧ texts ≠ [] ∧
      elements = parts.flatten ∧ cs = List.intercalate [d] texts ++ '\x7d' :: rest ∧
      shape = (count + texts.length) :: dims ∧ dims.length = levels ∧ fits inner dims ∧
      fits known shape := by
  induction hn : cs.length using Nat.strongRecOn generalizing cs inner count elements with
  | ind n ih =>
    subst hn
    by_cases hhead : cs.head? = some '\x7b'
    · obtain ⟨cs, rfl⟩ := List.head?_eq_some_iff.1 hhead
      rw [readRows_view] at h
      split at h
      · cases h
      · rename_i part dims behind hpart
        obtain ⟨src, hsrc, harray, hlevels, hinner⟩ := hread _ _ _ _ _ hpart
        rcases readBehind_sound h with ⟨tail, more, rfl, hmore, rfl⟩ | ⟨rfl, rfl, rfl, hfits⟩
        · have hlt : tail.length < ('\x7b' :: cs).length := by
            obtain ⟨body, rfl⟩ := harray.head
            rw [hsrc]
            simp
            omega
          obtain ⟨texts, parts, dims', hparts, hne, rfl, htail, hshape, -, hsame, hfits⟩ :=
            ih _ hlt hmore rfl
          obtain rfl : dims = dims' := by simpa [fits] using hsame
          refine ⟨src :: texts, part :: parts, dims, .cons harray hparts, by simp, rfl, ?_, ?_,
            hlevels, hinner, hfits⟩
          · rw [hsrc, htail, List.intercalate_cons_of_ne_nil hne]
            simp
          · rw [hshape]
            simp
            omega
        · exact ⟨[src], [elements], dims, .cons harray .nil, by simp, by simp,
            by simp [hsrc, List.intercalate], rfl, hlevels, hinner, hfits⟩
    · rw [readRows_of_ne d read known inner count hhead] at h
      cases h

/-- Arrays of one shape with delimiters between them are read up to the brace behind them. -/
theorem readRows_complete (hclose : d ≠ '\x7d') {levels : Nat} (hread : Complete d levels read)
    {dims : List Nat} {texts : List (List Char)} {parts : List Elements}
    (h : List.Forall₂ (ArrayText d dims) texts parts) (hne : texts ≠ [])
    (hlevels : dims.length = levels) (hinner : fits inner dims)
    (hfits : fits known ((count + texts.length) :: dims)) :
    (readRows d read known inner count (List.intercalate [d] texts ++ '\x7d' :: rest)).map
        Level.view = .ok (parts.flatten, (count + texts.length) :: dims, rest) := by
  induction h generalizing inner count with
  | nil => exact absurd rfl hne
  | @cons src part texts parts harray hrest ih =>
    obtain ⟨cs, rfl⟩ := harray.head
    cases hrest with
    | nil =>
      have hpart := hread inner cs part dims ('\x7d' :: rest) harray hlevels hinner
      have hfits : fits known ((count + 1) :: dims) := hfits
      have hsrc : List.intercalate [d] ['\x7b' :: cs] ++ '\x7d' :: rest =
          '\x7b' :: (cs ++ '\x7d' :: rest) := by
        simp [List.intercalate]
      rw [hsrc, readRows_view, hpart]
      simpa using readBehind_closing hclose hfits
    | @cons src' part' texts' parts' harray' hrest' =>
      have hcount : count + (('\x7b' :: cs) :: src' :: texts').length =
          count + 1 + (src' :: texts').length := by
        simp only [List.length_cons]
        omega
      rw [hcount] at hfits ⊢
      have hpart := fun tail => hread inner cs part dims (d :: tail) harray hlevels hinner
      -- The shape of the first array is the one that the others are held to.
      have hsame : fits (some dims) dims := by simp [fits]
      have hmore := ih (by simp) hsame hfits
      rw [List.intercalate_cons_of_ne_nil (by simp), List.append_assoc, List.append_assoc,
        List.cons_append, readRows_view]
      simp only [List.singleton_append, hpart]
      exact readBehind_delimiter hmore

end Rows

/-- What is read of a level is an array text behind its opening brace. -/
theorem readLevel_sound (hd : d ≠ '\x7d') (level : Nat) :
    Sound d (level + 1) (readLevel d level) := by
  induction level with
  | zero =>
    intro known cs elements shape rest h
    obtain ⟨texts, helems, rfl, hshape, hfits, hfirst, -⟩ := readItems_sound hd h
    obtain rfl : shape = [texts.length] := by simpa using hshape
    exact ⟨braced d texts, by simp [braced], ⟨texts, rfl, hfirst rfl, helems, rfl⟩, rfl, hfits⟩
  | succ level ih =>
    intro known cs elements shape rest h
    obtain ⟨texts, parts, dims, hparts, hne, rfl, rfl, hshape, hlength, -, hfits⟩ :=
      readRows_sound ih h
    obtain ⟨m, dims, rfl⟩ := List.exists_cons_of_length_eq_add_one hlength
    obtain rfl : shape = texts.length :: m :: dims := by simpa using hshape
    exact ⟨braced d texts, by simp [braced], ⟨texts, parts, rfl, hne, hparts, rfl, rfl⟩,
      by simpa using hlength, hfits⟩

/-- A level is read up to the end of its array text. -/
theorem readLevel_complete (hclose : d ≠ '\x7d') (hquote : d ≠ '"') (level : Nat) :
    Complete d (level + 1) (readLevel d level) := by
  induction level with
  | zero =>
    intro known cs elements shape rest h hlength hfits
    obtain ⟨n, rfl⟩ := List.length_eq_one_iff.1 hlength
    obtain ⟨texts, rfl, hne, helems, hsrc⟩ := h
    obtain rfl : cs = List.intercalate [d] texts ++ ['\x7d'] := (List.cons.inj hsrc).2
    have hfits : fits known [0 + texts.length] := by simpa using hfits
    rw [List.append_assoc]
    have hread : (readItems d known 0 (List.intercalate [d] texts ++ '\x7d' :: rest)).map
        Level.view = .ok (elements, [0 + texts.length], rest) :=
      readItems_complete hclose hquote helems (fun _ => hne)
        (fun h => absurd h (Nat.lt_irrefl 0)) hfits
    simpa [readLevel] using hread
  | succ level ih =>
    intro known cs elements shape rest h hlength hfits
    match shape, hlength, h with
    | n :: m :: dims, hlength, h =>
      obtain ⟨texts, parts, rfl, hne, hparts, rfl, hsrc⟩ := h
      obtain rfl : cs = List.intercalate [d] texts ++ ['\x7d'] := (List.cons.inj hsrc).2
      -- The arrays of a level whose shape is settled are held to the rest of that shape.
      have hinner : fits (known.map List.tail) (m :: dims) := by
        cases known with
        | none => rfl
        | some shape => simpa [fits] using congrArg List.tail (eq_of_beq hfits)
      have hfits : fits known ((0 + texts.length) :: m :: dims) := by simpa using hfits
      rw [List.append_assoc]
      have hread : (readRows d (readLevel d level) known (known.map List.tail) 0
          (List.intercalate [d] texts ++ '\x7d' :: rest)).map Level.view =
            .ok (parts.flatten, (0 + texts.length) :: m :: dims, rest) :=
        readRows_complete hclose ih hparts hne (by simpa using hlength) hinner hfits
      simpa [readLevel] using hread

/-- No element begins with an opening brace. -/
theorem ElementText.head?_ne_opening {s : List Char} (h : ElementText d s e) :
    s.head? ≠ some '\x7b' := by
  cases h with
  | quoted hs => simp
  | bare hs =>
    intro hhead
    have hmem : '\x7b' ∈ s := List.mem_of_head? hhead
    simpa [isBare] using hs _ hmem

/-- An array text begins with as many opening braces as it has dimensions, and no more. -/
theorem ArrayText.opening (hopen : d ≠ '\x7b') {dims : List Nat} {src : List Char}
    {elements : Elements} (h : ArrayText d dims src elements) :
    ∃ c tail, c ≠ '\x7b' ∧ src = List.replicate dims.length '\x7b' ++ c :: tail := by
  induction dims generalizing src elements with
  | nil => exact absurd h id
  | cons n dims ih =>
    cases dims with
    | nil =>
      obtain ⟨texts, -, -, helems, rfl⟩ := h
      cases helems with
      | nil => exact ⟨'\x7d', [], by decide, rfl⟩
      | @cons s e texts elements he hrest =>
        -- Behind an empty first element stands the delimiter, or the brace.
        cases s with
        | cons c s =>
          refine ⟨c, List.intercalate [d] ((c :: s) :: texts) |>.tail.append ['\x7d'],
            fun hc => he.head?_ne_opening (congrArg some hc), ?_⟩
          cases texts <;> simp [braced, List.intercalate]
        | nil =>
          cases texts with
          | nil => exact ⟨'\x7d', [], by decide, rfl⟩
          | cons t texts =>
            exact ⟨d, List.intercalate [d] (t :: texts) ++ ['\x7d'], hopen,
              by simp [braced, List.intercalate]⟩
    | cons m dims =>
      obtain ⟨texts, parts, -, hne, hparts, -, rfl⟩ := h
      cases hparts with
      | nil => exact absurd rfl hne
      | @cons s part texts parts harray hrest =>
        obtain ⟨c, tail, hc, rfl⟩ := ih harray
        cases texts with
        | nil =>
          exact ⟨c, tail ++ ['\x7d'], hc,
            by simp [braced, List.intercalate, List.replicate_succ]⟩
        | cons t texts =>
          exact ⟨c, tail ++ d :: List.intercalate [d] (t :: texts) ++ ['\x7d'], hc,
            by simp [braced, List.intercalate, List.replicate_succ]⟩

/-- The number of opening braces behind the first one tells the level that is read. -/
theorem ArrayText.takeWhile_opening (hopen : d ≠ '\x7b') {dims : List Nat} {src : List Char}
    {elements : Elements} (h : ArrayText d dims ('\x7b' :: src) elements) :
    dims.length = (src.takeWhile (· == '\x7b')).length + 1 := by
  obtain ⟨c, tail, hc, heq⟩ := h.opening hopen
  have htake := congrArg (fun cs => (cs.takeWhile (· == '\x7b')).length) heq
  have hrep : ∀ x ∈ List.replicate dims.length '\x7b', (x == '\x7b') = true := by
    intro x hx
    simp [List.eq_of_mem_replicate hx]
  simp only [List.takeWhile_append_of_pos hrep, List.takeWhile_cons, beq_self_eq_true] at htake
  simpa [hc] using htake.symm

/-- Nothing but the array without elements begins with braces that hold nothing. -/
theorem ArrayText.rest_of_empty (hopen : d ≠ '\x7b') (hclose : d ≠ '\x7d') (hquote : d ≠ '"')
    {dims : List Nat} {elements : Elements}
    (h : ArrayText d dims ('\x7b' :: '\x7d' :: rest) elements) : rest = [] := by
  have hlength : dims.length = 0 + 1 := h.takeWhile_opening hopen
  have hread := readLevel_complete hclose hquote 0 none _ _ _ [] h hlength rfl
  rw [List.append_nil] at hread
  have hempty : (readItems d none 0 ('\x7d' :: rest)).map Level.view = .ok ([], [0], rest) :=
    readItems_complete hclose hquote .nil (by simp) (by simp) rfl
  cases hempty.symm.trans hread
  rfl

/-- Parsing accepts exactly the array texts, apart from the empty array, to which it gives no
dimensions. -/
theorem parse_eq_ok_iff (hopen : d ≠ '\x7b') (hclose : d ≠ '\x7d') (hquote : d ≠ '"')
    {src : List Char} {dims : List Nat} {elements : Elements} :
    parse d src = .ok (dims, elements) ↔
      (src = ['\x7b', '\x7d'] ∧ dims = [] ∧ elements = []) ∨
        (src ≠ ['\x7b', '\x7d'] ∧ ArrayText d dims src elements) := by
  constructor
  · intro h
    unfold parse at h
    split at h
    · cases h
      exact .inl ⟨rfl, rfl, rfl⟩
    · cases h
    · rename_i cs hne _
      split at h
      · cases h
      · cases h
      · rename_i level hlevel
        split at h
        · rename_i hrest
          cases h
          have hview : (readLevel d (cs.takeWhile (· == '\x7b')).length none cs).map Level.view =
              .ok (level.elements, level.shape, []) := by
            rw [hlevel, ← List.isEmpty_iff.1 hrest]
            rfl
          obtain ⟨src, hsrc, harray, -, -⟩ := readLevel_sound hclose _ _ _ _ _ _ hview
          rw [List.append_nil] at hsrc
          subst hsrc
          exact .inr ⟨fun heq => hne (List.cons.inj heq).2, harray⟩
        · cases h
    · cases h
  · rintro (⟨rfl, rfl, rfl⟩ | ⟨hne, h⟩)
    · rfl
    · obtain ⟨cs, rfl⟩ := h.head
      have hread := readLevel_complete hclose hquote _ none _ _ _ [] h
        (h.takeWhile_opening hopen) rfl
      rw [List.append_nil] at hread
      obtain ⟨level, hlevel, hview⟩ := Outcome.map_eq_ok_iff.1 hread
      simp only [Level.view, Prod.mk.injEq] at hview
      obtain ⟨rfl, rfl, hrest⟩ := hview
      unfold parse
      split
      · exact absurd ‹_› hne
      · rename_i rest heq
        obtain rfl := (List.cons.inj heq).2
        obtain rfl := h.rest_of_empty hopen hclose hquote
        exact absurd rfl hne
      · rename_i heq
        obtain rfl := (List.cons.inj heq).2
        simp [hlevel, hrest]
      · rename_i hother
        exact absurd rfl (hother cs)

end SqlBinding.SqlArray
