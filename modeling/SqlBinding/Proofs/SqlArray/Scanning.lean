import SqlBinding.SqlArray.Scan
import SqlBinding.Proofs.SqlArray.Parsing

/-!
# The loop reads what the grammar reads

The loop of `Scan` ends for every text, never asks for a place out of range, and results in what
`parse` results in, errors included. The invariant is the form of its state inside of a level: the
places of the levels around it are left alone (`Outer`), and those from the level on down hold the
shape that siblings are held to. One lemma says what each step does to a state of that form, and
`Follows` is what these steps add up to over the reading of a level.
-/

set_option autoImplicit false

namespace SqlBinding.SqlArray.Scan

variable {d : Char} {src cs rest : List Char}

/-- The position at which a later part of the text begins. -/
def positionOf (src cs : List Char) : Nat := src.length - cs.length

/-- From the position of a later part on stands that part. -/
theorem drop_positionOf (h : cs <:+ src) : src.drop (positionOf src cs) = cs :=
  (List.suffix_iff_eq_drop.1 h).symm

/-- At the position of a later part stands its first character. -/
theorem getElem?_positionOf (h : cs <:+ src) : src[positionOf src cs]? = cs.head? := by
  rw [← List.head?_drop, drop_positionOf h]

/-- The position moves on by one with each character. -/
theorem positionOf_succ {c : Char} (h : c :: rest <:+ src) :
    positionOf src (c :: rest) + 1 = positionOf src rest := by
  have hlength := h.length_le
  simp only [positionOf, List.length_cons] at hlength ⊢
  omega

/-- Two texts have the bytes of both. -/
theorem byteLength_append (a b : List Char) :
    byteLength (a ++ b) = byteLength a + byteLength b := by
  induction a with
  | nil => simp [byteLength]
  | cons c a ih =>
    simp only [byteLength, List.cons_append, List.foldr_cons] at ih ⊢
    omega

/-- The error at the beginning of a part, told by its position or by the part itself. -/
theorem unexpectedAt_positionOf (h : cs <:+ src) (expected : String) :
    unexpectedAt src (positionOf src cs) expected = errorAt src cs expected := by
  have hbytes : byteLength (src.take (positionOf src cs)) = byteLength src - byteLength cs := by
    have hsplit := byteLength_append (src.take (positionOf src cs)) (src.drop (positionOf src cs))
    rw [List.take_append_drop, drop_positionOf h] at hsplit
    omega
  rw [unexpectedAt, errorAt, getElem?_positionOf h, hbytes]

/-- What is left behind an entry is a later part of the text. -/
theorem readEntry_suffix {count : Nat} {entry : Elements}
    (h : readEntry d count cs = some (entry, rest)) : rest <:+ cs := by
  rcases readEntry_sound h with ⟨-, -, rfl, -⟩ | ⟨s, e, -, rfl, -, -⟩
  · exact List.suffix_rfl
  · exact List.suffix_append s rest

/-- The loop reads an element at a position as it is read from the text left there. -/
theorem elementAt_positionOf (h : cs <:+ src) :
    elementAt d src (positionOf src cs) =
      (readElement d cs).map fun (element, rest) => (element, positionOf src rest) := by
  rw [elementAt, drop_positionOf h]
  rfl

/-- The places of the levels around the one that is read. -/
structure Outer where
  dims : List Nat
  seen : List Bool
  counts : List Nat
  length_seen : seen.length = dims.length
  length_counts : counts.length = dims.length

namespace Outer

/-- The number of levels around. -/
def depth (o : Outer) : Nat := o.dims.length

/-- Each level around has an entry count. -/
theorem length_dims (o : Outer) : o.dims.length = o.depth := rfl

/-- No level is around the outermost one. -/
def none : Outer := ⟨[], [], [], rfl, rfl⟩

/-- The levels around the arrays of a level. -/
def push (o : Outer) (n : Nat) (settled : Bool) (count : Nat) : Outer where
  dims := o.dims ++ [n]
  seen := o.seen ++ [settled]
  counts := o.counts ++ [count]
  length_seen := by simp [o.length_seen]
  length_counts := by simp [o.length_counts]

/-- The state in a level with these levels around it, where `cs` is left and the places from the
level on down hold `dims`, `seen` and `counts`. -/
def inside (o : Outer) (phase : Phase) (src cs : List Char) (dims : List Nat) (seen : List Bool)
    (counts : List Nat) (elements : Elements) : State where
  phase := phase
  position := positionOf src cs
  depth := o.depth + 1
  dims := o.dims ++ dims
  seen := o.seen ++ seen
  counts := o.counts ++ counts
  elements := elements

/-- The state behind a level of the given shape. -/
def closed (o : Outer) (src cs : List Char) (shape : List Nat) (elements : Elements) : State where
  phase := .behind
  position := positionOf src cs
  depth := o.depth
  dims := o.dims ++ shape
  seen := o.seen ++ List.replicate shape.length true
  counts := o.counts ++ shape
  elements := elements

variable {o : Outer} {n count : Nat} {settled : Bool} {dims counts : List Nat} {seen : List Bool}
  {elements : Elements}

/-- Behind the places of the levels around stands that of the level itself. -/
theorem getElem?_depth {α : Type} {outer : List α} (h : outer.length = o.depth) (a : α)
    (inner : List α) : (outer ++ a :: inner)[o.depth]? = some a := by
  simp [← h]

/-- Writing the place of a level leaves those around and inside alone. -/
theorem set_depth {α : Type} {outer : List α} (h : outer.length = o.depth) (a b : α)
    (inner : List α) : (outer ++ a :: inner).set o.depth b = outer ++ b :: inner := by
  simp [← h]

/-- The innermost level is the last one that has a place. -/
theorem depth_innermost (o : Outer) (n : Nat) : o.depth + 1 = (o.dims ++ [n]).length := by
  simp [depth]

/-- A level with another one inside is not the last one. -/
theorem depth_outer (o : Outer) (n m : Nat) (dims : List Nat) :
    o.depth + 1 ≠ (o.dims ++ n :: m :: dims).length := by
  simp only [depth, List.length_append, List.length_cons]
  omega

/-- An entry of the innermost level is read. -/
theorem step_entry (h : cs <:+ src) {entry : Elements}
    (hentry : readEntry d count cs = some (entry, rest)) :
    step d src (o.inside .entry src cs [n] seen [count] elements) =
      .next (o.inside .behind src rest [n] seen [count + entry.length] (elements ++ entry)) := by
  simp only [step, stepEntry, inside, if_pos (depth_innermost o n), getElem?_depth o.length_counts,
    set_depth o.length_counts, getElem?_positionOf h, elementAt_positionOf h]
  unfold readEntry at hentry
  split at hentry
  · rename_i hclose
    cases hentry
    simp [if_pos hclose]
  · rename_i hopen
    obtain ⟨⟨element, rest⟩, hread, heq⟩ := Option.map_eq_some_iff.1 hentry
    cases heq
    simp [if_neg hopen, hread]

/-- A quoted element that is not closed ends the reading. -/
theorem step_unterminated (h : cs <:+ src) (hentry : readEntry d count cs = Option.none) :
    step d src (o.inside .entry src cs [n] seen [count] elements) =
      .stop (.error (errorAt src [] "'\"'")) := by
  simp only [step, stepEntry, inside, if_pos (depth_innermost o n), getElem?_depth o.length_counts,
    getElem?_positionOf h, elementAt_positionOf h]
  unfold readEntry at hentry
  split at hentry
  · cases hentry
  · rename_i hopen
    have hread : readElement d cs = Option.none := by simpa using hentry
    have hend : unexpectedAt src (positionOf src []) "'\"'" = errorAt src [] "'\"'" :=
      unexpectedAt_positionOf List.nil_suffix _
    simpa [if_neg hopen, hread, positionOf] using hend

/-- An array of an outer level is opened. -/
theorem step_opening (h : '\x7b' :: rest <:+ src) {m : Nat} {c : Nat} :
    step d src (o.inside .entry src ('\x7b' :: rest) (n :: m :: dims) (settled :: seen)
        (count :: c :: counts) elements) =
      .next ((o.push n settled count).inside .entry src rest (m :: dims) seen (0 :: counts)
        elements) := by
  have hplace : o.depth + 1 < (o.counts ++ count :: c :: counts).length := by
    simp only [List.length_append, List.length_cons, o.length_counts, depth]
    omega
  have hset : (o.counts ++ count :: c :: counts).set (o.depth + 1) 0 =
      o.counts ++ count :: 0 :: counts := by
    simp [← o.length_counts, depth]
  simp only [step, stepEntry, inside, if_neg (depth_outer o n m dims), getElem?_positionOf h,
    List.head?_cons, if_pos hplace, positionOf_succ h, hset]
  simp [push, depth]

/-- Anything else is no array. -/
theorem step_no_array (h : cs <:+ src) (hhead : cs.head? ≠ some '\x7b') {m : Nat} :
    step d src (o.inside .entry src cs (n :: m :: dims) seen counts elements) =
      .stop (.error .ragged) := by
  simp only [step, stepEntry, inside, if_neg (depth_outer o n m dims), getElem?_positionOf h,
    if_neg hhead]

/-- At a delimiter behind an entry the loop goes on to the next entry. -/
theorem step_delimiter (h : d :: rest <:+ src) :
    step d src (o.inside .behind src (d :: rest) dims seen counts elements) =
      .next (o.inside .entry src rest dims seen counts elements) := by
  simp [step, stepBehind, inside, getElem?_positionOf h, positionOf_succ h]

/-- Behind an entry only a delimiter or a closing brace may stand. -/
theorem step_unexpected (h : cs <:+ src) (hdelimiter : cs.head? ≠ some d)
    (hclose : cs.head? ≠ some '\x7d') :
    step d src (o.inside .behind src cs dims seen counts elements) =
      .stop (.error (errorAt src cs "delimiter or '\x7d'")) := by
  have herror := unexpectedAt_positionOf h "delimiter or '\x7d'"
  cases cs with
  | nil => simpa [step, stepBehind, inside, getElem?_positionOf h] using herror
  | cons c cs =>
    rw [List.head?_cons, Ne, Option.some.injEq] at hdelimiter hclose
    simpa [step, stepBehind, inside, getElem?_positionOf h, hdelimiter, hclose] using herror

/-- A closing brace closes the level if its count is the settled one, or settles it. -/
theorem step_closing (hd : '\x7d' ≠ d) (h : '\x7d' :: rest <:+ src)
    (hseen : seen = List.replicate counts.length true)
    (hdims : dims = counts) (hfits : settled = true → n = count) :
    step d src (o.inside .behind src ('\x7d' :: rest) (n :: dims) (settled :: seen)
        (count :: counts) elements) =
      leave src (o.closed src rest (count :: counts) elements) := by
  subst hseen hdims
  simp only [step, stepBehind, inside, getElem?_positionOf h, List.head?_cons, if_neg hd, if_true,
    close, getElem?_depth o.length_counts, getElem?_depth o.length_seen,
    getElem?_depth o.length_dims, positionOf_succ h, closed]
  cases settled with
  | true => simp [hfits rfl, List.replicate_succ]
  | false =>
    simp [set_depth o.length_seen, set_depth o.length_dims, List.replicate_succ]

/-- A closing brace does not close a level whose count is not the settled one. -/
theorem step_mismatch (hd : '\x7d' ≠ d) (h : '\x7d' :: rest <:+ src) (hne : n ≠ count) :
    step d src (o.inside .behind src ('\x7d' :: rest) (n :: dims) (true :: seen)
        (count :: counts) elements) = .stop (.error .ragged) := by
  simp only [step, stepBehind, inside, getElem?_positionOf h, List.head?_cons, if_neg hd, if_true,
    close, getElem?_depth o.length_counts, getElem?_depth o.length_seen,
    getElem?_depth o.length_dims, if_neg hne]

/-- An array of an outer level counts when it has been closed. -/
theorem leave_push {shape : List Nat} :
    leave src ((o.push n settled count).closed src rest shape elements) =
      .next (o.inside .behind src rest (n :: shape)
        (settled :: List.replicate shape.length true) ((count + 1) :: shape) elements) := by
  have hdepth : (o.push n settled count).depth = o.depth + 1 := by simp [push, depth]
  have hcounts : (o.push n settled count).counts ++ shape = o.counts ++ count :: shape := by
    simp [push]
  simp only [leave, closed, hdepth, hcounts, getElem?_depth o.length_counts,
    set_depth o.length_counts]
  simp [inside, push]

/-- Behind the outermost level the text must end. -/
theorem leave_none {shape : List Nat} (h : rest <:+ src) :
    leave src (none.closed src rest shape elements) =
      .stop (if rest.isEmpty then .ok (shape, elements)
        else .error (errorAt src rest "end of input")) := by
  have herror := unexpectedAt_positionOf h "end of input"
  cases rest with
  | nil => simp [leave, closed, none, depth, getElem?_positionOf h]
  | cons c rest => simpa [leave, closed, none, depth, getElem?_positionOf h] using herror

end Outer

/-- The error of a reading that stopped. -/
def errorOf (src : List Char) : Stop → ArrayError
  | .unexpected rest expected => errorAt src rest expected
  | .ragged => .ragged

/-- Whether the loop goes from a state inside of a level as the reading of the level does: to its
error, or to behind the closing brace, with the shape and the elements that are read. The shape has
the given length and is the one that siblings are known to have. -/
def Continues (d : Char) (src : List Char) (o : Outer) (levels : Nat) (known : Option (List Nat))
    (elements : Elements) (s : State) : Except Stop (Elements × List Nat × List Char) → Prop
  | .error stop => Yields d src (.next s) (.error (errorOf src stop))
  | .ok (more, shape, rest) =>
    shape.length = levels ∧ fits known shape ∧ rest <:+ src ∧
      ∀ result, Yields d src (leave src (o.closed src rest shape (elements ++ more))) result →
        Yields d src (.next s) result

section Continues

variable {o : Outer} {levels n count : Nat} {known : Option (List Nat)} {elements : Elements}
  {dims : List Nat} {s s' : State} {outcome : Except Stop (Elements × List Nat × List Char)}

/-- What a later state goes on to, an earlier one does. -/
theorem Continues.of_yields
    (h : ∀ result, Yields d src (.next s') result → Yields d src (.next s) result)
    (hlater : Continues d src o levels known elements s' outcome) :
    Continues d src o levels known elements s outcome := by
  cases outcome with
  | error stop => exact h _ hlater
  | ok level =>
    obtain ⟨hlength, hfits, hrest, hleave⟩ := hlater
    exact ⟨hlength, hfits, hrest, fun result hresult => h result (hleave result hresult)⟩

/-- What the loop does behind a step it does from before the step. -/
theorem Continues.of_step (h : step d src s = .next s')
    (hlater : Continues d src o levels known elements s' outcome) :
    Continues d src o levels known elements s outcome :=
  hlater.of_yields fun _ hresult => .next (h ▸ hresult)

/-- A step that ends the loop with the error of the reading. -/
theorem Continues.of_stop {stop : Stop} (h : step d src s = .stop (.error (errorOf src stop))) :
    Continues d src o levels known elements s (.error stop) :=
  .next (h ▸ .stop _)

/-- Elements that were read before count as read by the level. -/
theorem Continues.append {entry : Elements}
    (h : Continues d src o levels known (elements ++ entry) s outcome) :
    Continues d src o levels known elements s
      (outcome.map fun (more, shape, rest) => (entry ++ more, shape, rest)) := by
  cases outcome with
  | error stop => exact h
  | ok level => simpa [Continues, Except.map] using h

/-- A closing brace ends a level whose shape is one that may stand there. -/
theorem continues_closing (hd : '\x7d' ≠ d) (h : '\x7d' :: rest <:+ src) {entry : Elements}
    (hknown : ∀ shape ∈ known, shape = n :: dims) :
    Continues d src o (dims.length + 1) known elements
      (o.inside .behind src ('\x7d' :: rest) (n :: dims)
        (known.isSome :: List.replicate dims.length true) (count :: dims) (elements ++ entry))
      (if fits known (count :: dims) then
        .ok (entry, count :: dims, rest)
      else
        .error .ragged) := by
  -- A level closes without a complaint exactly if the settled shape, if there is one, is its shape.
  by_cases hfits : fits known (count :: dims) = true
  · rw [if_pos hfits]
    have hsettled : known.isSome = true → n = count := by
      intro hsome
      obtain ⟨shape, rfl⟩ := Option.isSome_iff_exists.1 hsome
      rw [hknown shape rfl] at hfits
      simpa [fits] using hfits
    refine ⟨rfl, hfits, (List.suffix_cons _ _).trans h, fun result hresult => .next ?_⟩
    rw [Outer.step_closing hd h rfl rfl hsettled]
    exact hresult
  · rw [if_neg hfits]
    obtain ⟨shape, rfl⟩ : ∃ shape, known = some shape := by
      cases known with
      | none => exact absurd rfl hfits
      | some shape => exact ⟨shape, rfl⟩
    have hne : n ≠ count := by
      rintro rfl
      exact hfits (by simp [fits, hknown shape rfl])
    exact .of_stop (Outer.step_mismatch hd h hne)

/-- Behind an entry the loop goes on as `readBehind` does, if it does so behind a delimiter. -/
theorem continues_behind (h : cs <:+ src) {entry : Elements}
    (hknown : ∀ shape ∈ known, shape = n :: dims)
    {after : List Char → Except Stop (Elements × List Nat × List Char)}
    (hafter : ∀ rest, cs = d :: rest →
      Continues d src o (dims.length + 1) known (elements ++ entry)
        (o.inside .entry src rest (n :: dims)
          (known.isSome :: List.replicate dims.length true) (count :: dims) (elements ++ entry))
        (after rest)) :
    Continues d src o (dims.length + 1) known elements
      (o.inside .behind src cs (n :: dims)
        (known.isSome :: List.replicate dims.length true) (count :: dims) (elements ++ entry))
      (readBehind d known (count :: dims) entry after cs) := by
  cases cs with
  | nil => exact .of_stop (Outer.step_unexpected h (by simp) (by simp))
  | cons c rest =>
    rw [readBehind]
    split
    · subst c
      exact .of_step (Outer.step_delimiter h) (.append (hafter rest rfl))
    · rename_i hd
      split
      · subst c
        exact continues_closing hd h hknown
      · rename_i hclose
        exact .of_stop (Outer.step_unexpected h (by simpa using hd) (by simpa using hclose))

/-- The loop reads an innermost level as `readItems` does. -/
theorem continues_items (h : cs <:+ src) (hknown : ∀ shape ∈ known, shape = [n]) :
    Continues d src o 1 known elements
      (o.inside .entry src cs [n] [known.isSome] [count] elements)
      ((readItems d known count cs).map Level.view) := by
  induction hn : cs.length using Nat.strongRecOn generalizing cs count elements with
  | ind m ih =>
    subst hn
    rw [readItems_view]
    split
    · rename_i hentry
      exact .of_stop (Outer.step_unterminated h hentry)
    · rename_i entry behind hentry
      have hbehind : behind <:+ src := (readEntry_suffix hentry).trans h
      refine .of_step (Outer.step_entry h hentry) (continues_behind hbehind hknown ?_)
      rintro rest rfl
      have hlt : rest.length < cs.length := by
        have := readEntry_length hentry
        simp only [List.length_cons] at this
        omega
      exact ih _ hlt ((List.suffix_cons _ _).trans hbehind) rfl

/-- Whether the loop goes on behind an opening brace as `read` does, whatever is around. -/
def Follows (d : Char) (src : List Char) (levels : Nat)
    (read : Option (List Nat) → (cs : List Char) → Except Stop (Level cs)) : Prop :=
  ∀ (o : Outer) (known : Option (List Nat)) (cs : List Char) (dims counts : List Nat)
    (elements : Elements),
    cs <:+ src → dims.length = levels → counts.length + 1 = levels →
      (∀ shape ∈ known, shape = dims) →
      Continues d src o levels known elements
        (o.inside .entry src cs dims (List.replicate levels known.isSome) (0 :: counts) elements)
        ((read known cs).map Level.view)

/-- The loop reads an outer level as `readRows` does, if it reads its arrays as `read` does. -/
theorem continues_rows
    {read : Option (List Nat) → (cs : List Char) → Except Stop (Level cs)}
    (hread : Follows d src levels read) {inner : Option (List Nat)} {counts : List Nat}
    (h : cs <:+ src) (hdims : dims.length = levels) (hcounts : counts.length = levels)
    (hpos : 0 < levels) (hinner : ∀ shape ∈ inner, shape = dims)
    (hknown : ∀ shape ∈ known, shape = n :: dims ∧ inner = some dims) :
    Continues d src o (levels + 1) known elements
      (o.inside .entry src cs (n :: dims) (known.isSome :: List.replicate levels inner.isSome)
        (count :: counts) elements)
      ((readRows d read known inner count cs).map Level.view) := by
  -- Every further array is held to the shape of the one before, so `inner` and `dims` change.
  induction hn : cs.length using Nat.strongRecOn
    generalizing cs count elements inner dims counts with
  | ind k ih =>
    subst hn
    obtain ⟨m, dims, rfl⟩ := List.exists_cons_of_length_pos (hdims ▸ hpos)
    by_cases hhead : cs.head? = some '\x7b'
    · obtain ⟨cs, rfl⟩ := List.head?_eq_some_iff.1 hhead
      obtain ⟨c, counts, rfl⟩ := List.exists_cons_of_length_pos (hcounts ▸ hpos)
      refine .of_step (Outer.step_opening h) ?_
      have hcont := hread (o.push n known.isSome count) inner cs (m :: dims) counts elements
        ((List.suffix_cons _ _).trans h) hdims hcounts hinner
      rw [readRows_view]
      cases hview : (read inner cs).map Level.view with
      | error stop =>
        rw [hview] at hcont
        exact hcont
      | ok level =>
        obtain ⟨part, shape, rest⟩ := level
        rw [hview] at hcont
        obtain ⟨hlength, hfits, hrest, hleave⟩ := hcont
        have hshape : ∀ outer ∈ known, outer = n :: shape := by
          intro outer houter
          obtain ⟨rfl, rfl⟩ := hknown outer houter
          simpa [fits] using hfits
        -- Behind the closing brace of the array, its shape is the one to hold to.
        have hbehind : ∀ result,
            Yields d src (.next (o.inside .behind src rest (n :: shape)
              (known.isSome :: List.replicate shape.length true) ((count + 1) :: shape)
              (elements ++ part))) result → _ :=
          fun result hresult => hleave result (Outer.leave_push ▸ hresult)
        refine .of_yields hbehind ?_
        rw [← hlength]
        refine continues_behind hrest hshape ?_
        rintro rest rfl
        have hlt : rest.length < ('\x7b' :: cs).length := by
          obtain ⟨level, -, heq⟩ := Outcome.map_eq_ok_iff.1 hview
          have hlevel := level.rest_lt
          rw [show level.rest = d :: rest from congrArg (fun view => view.2.2) heq] at hlevel
          simp only [List.length_cons] at hlevel ⊢
          omega
        have hsettled : ∀ outer ∈ known, outer = n :: shape ∧ some shape = some shape :=
          fun outer houter => ⟨hshape outer houter, rfl⟩
        rw [hlength]
        exact ih _ hlt ((List.suffix_cons _ _).trans hrest) hlength hlength (by simp) hsettled rfl
    · rw [readRows_of_ne d read known inner count hhead]
      exact .of_stop (Outer.step_no_array h hhead)

/-- The loop reads every level as `readLevel` does. -/
theorem follows_readLevel (level : Nat) : Follows d src (level + 1) (readLevel d level) := by
  induction level with
  | zero =>
    intro o known cs dims counts elements h hdims hcounts hknown
    obtain ⟨n, rfl⟩ := List.length_eq_one_iff.1 hdims
    obtain rfl : counts = [] := List.length_eq_zero_iff.1 (by omega)
    exact continues_items h hknown
  | succ level ih =>
    intro o known cs dims counts elements h hdims hcounts hknown
    obtain ⟨n, dims, rfl⟩ := List.exists_cons_of_length_eq_add_one hdims
    have hinner : ∀ shape ∈ known.map List.tail, shape = dims := by
      intro shape hshape
      obtain ⟨outer, houter, rfl⟩ := Option.map_eq_some_iff.1 hshape
      rw [hknown outer houter, List.tail_cons]
    have hboth : ∀ shape ∈ known, shape = n :: dims ∧ known.map List.tail = some dims := by
      intro shape hshape
      obtain rfl := hknown shape hshape
      exact ⟨rfl, by simp [Option.mem_def.1 hshape]⟩
    have hdims : dims.length = level + 1 := by simpa using hdims
    have hcounts : counts.length = level + 1 := by simpa using hcounts
    simpa [readLevel, List.replicate_succ] using
      continues_rows ih h hdims hcounts (Nat.succ_pos _) hinner hboth

end Continues

/-- The state in which `depth` of the levels are open and nothing has been read. -/
def opened (src cs : List Char) (levels depth : Nat) : State where
  phase := .entry
  position := positionOf src cs
  depth := depth
  dims := List.replicate levels 0
  seen := List.replicate levels false
  counts := List.replicate levels 0
  elements := []

/-- Opening braces lead from a level to the innermost one. -/
theorem yields_of_opened {levels : Nat} {result : Result} (k : Nat) {depth : Nat}
    (h : List.replicate k '\x7b' ++ cs <:+ src) (hlevels : levels = depth + k)
    (hyields : Yields d src (.next (opened src (List.replicate k '\x7b' ++ cs) levels depth))
      result) :
    Yields d src (.next (opened src cs levels levels)) result := by
  induction k generalizing depth with
  | zero =>
    subst hlevels
    exact hyields
  | succ k ih =>
    rw [List.replicate_succ, List.cons_append] at h hyields
    have hdepth : depth < levels := by omega
    have hlevels : levels = depth + 1 + k := by omega
    cases hyields with
    | next hstep =>
      refine ih ((List.suffix_cons _ _).trans h) hlevels ?_
      simpa [step, stepEntry, opened, getElem?_positionOf h, positionOf_succ h, hdepth,
        hdepth.ne] using hstep

/-- A text is its opening braces and what stands behind them. -/
theorem replicate_append_dropWhile (cs : List Char) :
    List.replicate (cs.takeWhile (· == '\x7b')).length '\x7b' ++
      cs.dropWhile (· == '\x7b') = cs := by
  have hbraces : cs.takeWhile (· == '\x7b') =
      List.replicate (cs.takeWhile (· == '\x7b')).length '\x7b' :=
    List.eq_replicate_iff.2 ⟨rfl, fun c hc => by simpa using List.mem_takeWhile_imp hc⟩
  rw [← hbraces, List.takeWhile_append_dropWhile]

/-- Parsing a text that does not begin with an array without elements. -/
theorem parse_levels (hhead : cs.head? ≠ some '\x7d') :
    parse d ('\x7b' :: cs) =
      match (readLevel d (cs.takeWhile (· == '\x7b')).length Option.none cs).map Level.view with
      | .error stop => .error (errorOf ('\x7b' :: cs) stop)
      | .ok (elements, shape, rest) =>
        if rest.isEmpty then .ok (shape, elements)
        else .error (errorAt ('\x7b' :: cs) rest "end of input") := by
  unfold parse
  split
  · rename_i heq
    exact absurd (congrArg List.head? (List.cons.inj heq).2) hhead
  · rename_i heq
    exact absurd (congrArg List.head? (List.cons.inj heq).2) hhead
  · rename_i heq
    obtain rfl := (List.cons.inj heq).2
    cases readLevel d (cs.takeWhile (· == '\x7b')).length Option.none cs with
    | error stop => cases stop <;> rfl
    | ok level => rfl
  · rename_i hother
    exact absurd rfl (hother cs)

/-- Where a text is not an array, there is no loop. -/
theorem start_of_ne (hhead : src.head? ≠ some '\x7b') :
    start src = .stop (.error (errorAt src src "'\x7b'")) := by
  have herror : unexpectedAt src 0 "'\x7b'" = errorAt src src "'\x7b'" := by
    simpa [positionOf] using unexpectedAt_positionOf (List.suffix_refl src) "'\x7b'"
  cases src with
  | nil => simpa [start] using herror
  | cons c cs =>
    have hc : c ≠ '\x7b' := by simpa using hhead
    simpa [start, hc] using herror

/-- Where the outermost level holds nothing, there is no loop. -/
theorem start_empty (rest : List Char) :
    start ('\x7b' :: '\x7d' :: rest) =
      .stop (if rest.isEmpty then .ok ([], [])
        else .error (errorAt ('\x7b' :: '\x7d' :: rest) rest "end of input")) := by
  cases rest with
  | nil => rfl
  | cons c rest =>
    have hsuffix : c :: rest <:+ '\x7b' :: '\x7d' :: c :: rest := ⟨['\x7b', '\x7d'], rfl⟩
    simpa [start, positionOf] using unexpectedAt_positionOf hsuffix "end of input"

/-- The loop starts at the innermost level. -/
theorem start_levels (hhead : cs.head? ≠ some '\x7d') :
    let levels := (cs.takeWhile (· == '\x7b')).length + 1
    start ('\x7b' :: cs) =
      .next (opened ('\x7b' :: cs) (cs.dropWhile (· == '\x7b')) levels levels) := by
  have hsecond : cs[0]? ≠ some '\x7d' := by rwa [← List.head?_eq_getElem?]
  have hsplit := congrArg List.length (replicate_append_dropWhile cs)
  have hposition : positionOf ('\x7b' :: cs) (cs.dropWhile (· == '\x7b')) =
      (cs.takeWhile (· == '\x7b')).length + 1 := by
    simp only [positionOf, List.length_append, List.length_replicate, List.length_cons] at hsplit ⊢
    omega
  simp [start, opened, hsecond, hposition]

/-- From the outermost level, the loop ends with what parsing results in. -/
theorem yields_levels (hhead : cs.head? ≠ some '\x7d') :
    Yields d ('\x7b' :: cs)
      (.next (opened ('\x7b' :: cs) cs ((cs.takeWhile (· == '\x7b')).length + 1) 1))
      (parse d ('\x7b' :: cs)) := by
  rw [parse_levels hhead]
  generalize (cs.takeWhile (· == '\x7b')).length = k
  have hcont : Continues d ('\x7b' :: cs) Outer.none (k + 1) Option.none []
      (opened ('\x7b' :: cs) cs (k + 1) 1) ((readLevel d k Option.none cs).map Level.view) :=
    follows_readLevel k Outer.none Option.none cs (List.replicate (k + 1) 0) (List.replicate k 0) []
      (List.suffix_cons _ _) (by simp) (by simp) (by simp)
  cases hview : (readLevel d k Option.none cs).map Level.view with
  | error stop =>
    rw [hview] at hcont
    exact hcont
  | ok level =>
    rw [hview] at hcont
    obtain ⟨-, -, hrest, hleave⟩ := hcont
    refine hleave _ ?_
    rw [Outer.leave_none hrest]
    exact .stop _

/-- The loop ends, without a fault, with what parsing results in. -/
theorem yields_parse (d : Char) (src : List Char) : Yields d src (start src) (parse d src) := by
  by_cases hhead : src.head? = some '\x7b'
  · obtain ⟨cs, rfl⟩ := List.head?_eq_some_iff.1 hhead
    by_cases hclose : cs.head? = some '\x7d'
    · obtain ⟨rest, rfl⟩ := List.head?_eq_some_iff.1 hclose
      rw [start_empty]
      cases rest with
      | nil => exact .stop _
      | cons c rest => exact .stop _
    · have hyields : Yields d ('\x7b' :: cs) _ (parse d ('\x7b' :: cs)) := yields_levels hclose
      have hsuffix : cs <:+ '\x7b' :: cs := List.suffix_cons _ _
      rw [start_levels hclose]
      refine yields_of_opened (cs.takeWhile (· == '\x7b')).length ?_ (Nat.add_comm _ 1) ?_
      · rwa [replicate_append_dropWhile]
      · rwa [replicate_append_dropWhile]
  · rw [start_of_ne hhead]
    unfold parse
    split
    · exact absurd rfl hhead
    · exact absurd rfl hhead
    · exact absurd rfl hhead
    · exact .stop _

/-- The loop ends with one result. -/
theorem Yields.unique {s : Step} {r r' : Result} (h : Yields d src s r) (h' : Yields d src s r') :
    r = r' := by
  induction h with
  | stop =>
    cases h'
    rfl
  | next _ ih =>
    cases h' with
    | next h' => exact ih h'

end SqlBinding.SqlArray.Scan

namespace SqlBinding.SqlArray

/-- Whatever the text, the loop ends in one way, in which every place it asks for is in range; it
accepts exactly the empty array and the array texts, with their entry counts from the outside in and
their elements from left to right, and the elements of an array text fill its dimensions. -/
theorem parse_accepts_array_text {d : Char} (hopen : d ≠ '\x7b') (hclose : d ≠ '\x7d')
    (hquote : d ≠ '"') (src : List Char) :
    (∀ result, Scan.Yields d src (Scan.start src) result ↔ result = parse d src) ∧
      (∀ dims elements, parse d src = .ok (dims, elements) ↔
        (src = ['\x7b', '\x7d'] ∧ dims = [] ∧ elements = []) ∨
          (src ≠ ['\x7b', '\x7d'] ∧ ArrayText d dims src elements)) ∧
      (∀ dims elements, parse d src = .ok (dims, elements) → src ≠ ['\x7b', '\x7d'] →
        elements.length = dims.prod) := by
  refine ⟨fun result => ⟨?_, ?_⟩, fun dims elements => parse_eq_ok_iff hopen hclose hquote, ?_⟩
  · intro h
    exact h.unique (Scan.yields_parse d src)
  · rintro rfl
    exact Scan.yields_parse d src
  · intro dims elements h hne
    rcases (parse_eq_ok_iff hopen hclose hquote).1 h with ⟨hempty, -, -⟩ | ⟨-, harray⟩
    · exact absurd hempty hne
    · exact harray.length_elements

/-- Two rows, the first with an empty bare element and the second with an absent one. -/
theorem parse_accepts_matrix :
    (',' ≠ '\x7b' ∧ ',' ≠ '\x7d' ∧ ',' ≠ '"') ∧
      ArrayText ',' [2, 2]
        ['\x7b', '\x7b', '1', ',', '\x7d', ',', '\x7b', 'N', 'U', 'L', 'L', ',', '"', '\x7d', '"',
          '\x7d', '\x7d']
        [some ['1'], some [], none, some ['\x7d']] := by
  obtain ⟨hyields, haccepts, -⟩ := parse_accepts_array_text (d := ',') (by decide) (by decide)
    (by decide) ['\x7b', '\x7b', '1', ',', '\x7d', ',', '\x7b', 'N', 'U', 'L', 'L', ',', '"',
      '\x7d', '"', '\x7d', '\x7d']
  have hparse := (hyields (.ok ([2, 2], [some ['1'], some [], none, some ['\x7d']]))).1
    (by repeat constructor)
  rcases (haccepts _ _).1 hparse.symm with ⟨hempty, -, -⟩ | ⟨-, harray⟩
  · exact absurd hempty (by decide)
  · exact ⟨by decide, harray⟩

end SqlBinding.SqlArray
