import SqlBinding.SqlArray.Error

/-!
# The grammar of array text

An array is written in braces, its entries separated by a delimiter: elements at the innermost
level, arrays of the next level elsewhere. Elements are bare or in double quotes, in which a
backslash takes the next character literally; a bare `NULL` is an absent element.

`parse` splits array text into its dimensions and its elements in row-major order. The number of
levels is the number of opening braces at the beginning. Every level is read by `readRows` or
`readItems`, which report the shape of what they read; the shape of the first array of a level is
what the others are held to, as soon as one of them closes.
-/

set_option autoImplicit false

namespace SqlBinding.SqlArray

/-- The elements of an array, an absent one being `none`. -/
abbrev Elements := List (Option (List Char))

/-- Why reading stopped: at the beginning of `rest` something else was expected, or the shape of a
sub-array is not that of its siblings. -/
inductive Stop
  | unexpected (rest : List Char) (expected : String)
  | ragged

/-- What one level of an array was found to hold in front of `rest`, which begins behind its closing
brace and is a proper part of the text `cs`. -/
structure Level (cs : List Char) where
  elements : Elements
  shape : List Nat
  rest : List Char
  rest_lt : rest.length < cs.length

/-- Reads a quoted element behind its opening quote; `none` if the quote is never closed. -/
def readQuoted : List Char → Option (List Char × List Char)
  | [] => none
  | c :: rest =>
    if c = '"' then some ([], rest)
    else if c = '\\' then
      match rest with
      | [] => none
      | e :: after => (readQuoted after).map fun (text, tail) => (e :: text, tail)
    else (readQuoted rest).map fun (text, tail) => (c :: text, tail)

/-- Whether a character may stand in a bare element. -/
def isBare (delimiter c : Char) : Bool :=
  c != delimiter && c != '\x7d' && c != '\x7b' && c != '"'

/-- The bare text that stands for an absent element. -/
def nullText : List Char := ['N', 'U', 'L', 'L']

/-- What a bare text stands for. -/
def bareElement (text : List Char) : Option (List Char) :=
  if text = nullText then none else some text

/-- Reads one element, which may be an empty bare one; `none` if a quote is never closed. -/
def readElement (delimiter : Char) : List Char → Option (Option (List Char) × List Char)
  | '"' :: rest => (readQuoted rest).map fun (text, tail) => (some text, tail)
  | cs => some (bareElement (cs.takeWhile (isBare delimiter)), cs.dropWhile (isBare delimiter))

/-- What is left behind a quoted text is not longer than the text. -/
theorem readQuoted_length {cs text rest : List Char} (h : readQuoted cs = some (text, rest)) :
    rest.length ≤ cs.length := by
  fun_induction readQuoted cs generalizing text with
  | case1 => simp at h
  | case2 => simp_all
  | case3 => simp at h
  | case4 e after _ ih =>
    obtain ⟨⟨t, r⟩, hp, heq⟩ := Option.map_eq_some_iff.1 h
    simp only [Prod.mk.injEq] at heq
    obtain ⟨-, rfl⟩ := heq
    have := ih hp
    simp only [List.length_cons]
    omega
  | case5 c after _ _ ih =>
    obtain ⟨⟨t, r⟩, hp, heq⟩ := Option.map_eq_some_iff.1 h
    simp only [Prod.mk.injEq] at heq
    obtain ⟨-, rfl⟩ := heq
    have := ih hp
    simp only [List.length_cons]
    omega

/-- What is left behind an element is not longer than the text. -/
theorem readElement_length {delimiter : Char} {cs rest : List Char} {e : Option (List Char)}
    (h : readElement delimiter cs = some (e, rest)) : rest.length ≤ cs.length := by
  unfold readElement at h
  split at h
  · obtain ⟨⟨t, r⟩, hp, heq⟩ := Option.map_eq_some_iff.1 h
    simp only [Prod.mk.injEq] at heq
    obtain ⟨-, rfl⟩ := heq
    have := readQuoted_length hp
    simp only [List.length_cons]
    omega
  · simp only [Option.some.injEq, Prod.mk.injEq] at h
    rw [← h.2]
    exact (List.dropWhile_suffix _).length_le

/-- Whether a level of the given shape may stand beside one whose shape is already known. -/
def fits (known : Option (List Nat)) (shape : List Nat) : Bool :=
  known.all (· == shape)

/-- Reads the next entry of an innermost level of which `count` elements have been read: one
element, or none at all if the level closes before its first. -/
def readEntry (delimiter : Char) (count : Nat) (cs : List Char) : Option (Elements × List Char) :=
  if count = 0 ∧ cs.head? = some '\x7d' then some ([], cs)
  else (readElement delimiter cs).map fun (element, rest) => ([element], rest)

/-- What is left behind an entry is not longer than the text. -/
theorem readEntry_length {delimiter : Char} {count : Nat} {cs rest : List Char} {es : Elements}
    (h : readEntry delimiter count cs = some (es, rest)) : rest.length ≤ cs.length := by
  unfold readEntry at h
  split at h
  · simp only [Option.some.injEq, Prod.mk.injEq] at h
    simp [h.2]
  · obtain ⟨⟨t, r⟩, hp, heq⟩ := Option.map_eq_some_iff.1 h
    simp only [Prod.mk.injEq] at heq
    obtain ⟨-, rfl⟩ := heq
    exact readElement_length hp

/-- Reads the innermost level from behind its opening brace, or from behind a delimiter of it when
`count` elements have been read: elements with delimiters between them, or nothing at all. -/
def readItems (delimiter : Char) (known : Option (List Nat)) (count : Nat) (cs : List Char) :
    Except Stop (Level cs) :=
  match h : readEntry delimiter count cs with
  | none => .error (.unexpected [] "'\"'")
  | some (_, []) => .error (.unexpected [] "delimiter or '\x7d'")
  | some (entry, c :: rest) =>
    have hlt : rest.length < cs.length := by
      have := readEntry_length h
      simp only [List.length_cons] at this
      omega
    let total := count + entry.length
    if c = delimiter then
      match readItems delimiter known total rest with
      | .error stop => .error stop
      | .ok level =>
        .ok ⟨entry ++ level.elements, level.shape, level.rest, Nat.lt_trans level.rest_lt hlt⟩
    else if c = '\x7d' then
      if fits known [total] then .ok ⟨entry, [total], rest, hlt⟩ else .error .ragged
    else .error (.unexpected (c :: rest) "delimiter or '\x7d'")
termination_by cs.length

/-- Reads an outer level from where its next array is to begin, when `count` arrays of it have been
read: arrays that `read` reads from behind their opening brace, with delimiters between them. The
shape of the arrays is `inner` if it is known, and `known` is that of the level itself. -/
def readRows (delimiter : Char)
    (read : Option (List Nat) → (cs : List Char) → Except Stop (Level cs))
    (known inner : Option (List Nat)) (count : Nat) : (cs : List Char) → Except Stop (Level cs)
  | '\x7b' :: cs =>
    match read inner cs with
    | .error stop => .error stop
    | .ok ⟨_, _, [], _⟩ => .error (.unexpected [] "delimiter or '\x7d'")
    | .ok ⟨elements, shape, c :: rest, hlt⟩ =>
      have hlt' : rest.length < ('\x7b' :: cs).length := by
        simp only [List.length_cons] at hlt ⊢
        omega
      if c = delimiter then
        match readRows delimiter read known (some shape) (count + 1) rest with
        | .error stop => .error stop
        | .ok level =>
          .ok ⟨elements ++ level.elements, level.shape, level.rest,
            Nat.lt_trans level.rest_lt hlt'⟩
      else if c = '\x7d' then
        if fits known ((count + 1) :: shape) then .ok ⟨elements, (count + 1) :: shape, rest, hlt'⟩
        else .error .ragged
      else .error (.unexpected (c :: rest) "delimiter or '\x7d'")
  | _ => .error .ragged
termination_by cs => cs.length
decreasing_by exact hlt'

/-- Reads a level from behind its opening brace; level 0 is the innermost one. -/
def readLevel (delimiter : Char) :
    Nat → Option (List Nat) → (cs : List Char) → Except Stop (Level cs)
  | 0, known, cs => readItems delimiter known 0 cs
  | level + 1, known, cs =>
    readRows delimiter (readLevel delimiter level) known (known.map List.tail) 0 cs

/-- The number of bytes of a text. -/
def byteLength (cs : List Char) : Nat := cs.foldr (fun c n => c.utf8Size + n) 0

/-- The error at the beginning of `rest`, a later part of `src`. -/
def errorAt (src rest : List Char) (expected : String) : ArrayError :=
  .unexpected rest.head? (byteLength src - byteLength rest) expected

/-- Splits array text into its dimensions, from the outside in, and its elements; the empty array
has no dimensions. -/
def parse (delimiter : Char) (src : List Char) : Except ArrayError (List Nat × Elements) :=
  match src with
  | ['\x7b', '\x7d'] => .ok ([], [])
  | '\x7b' :: '\x7d' :: rest => .error (errorAt src rest "end of input")
  | '\x7b' :: cs =>
    match readLevel delimiter (cs.takeWhile (· == '\x7b')).length none cs with
    | .error .ragged => .error .ragged
    | .error (.unexpected rest expected) => .error (errorAt src rest expected)
    | .ok level =>
      if level.rest.isEmpty then .ok (level.shape, level.elements)
      else .error (errorAt src level.rest "end of input")
  | _ => .error (errorAt src src "'\x7b'")

/-- A text as a quoted element. -/
def quoteElement (text : List Char) : List Char :=
  '"' :: text.flatMap (fun c => if c = '"' ∨ c = '\\' then ['\\', c] else [c]) ++ ['"']

/-- Entries in braces with delimiters between them. -/
def braced (delimiter : Char) (entries : List (List Char)) : List Char :=
  '\x7b' :: List.intercalate [delimiter] entries ++ ['\x7d']

end SqlBinding.SqlArray
