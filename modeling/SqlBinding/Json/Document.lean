import SqlBinding.Numeric.Basic

/-!
# JSON documents

The tree of a JSON text, with numbers and strings as they are written: what a number is worth and
whether a string is a text at all is left to those who want to know. `parse` reads a whole text;
lists and objects may be nested to any depth, names of an object may repeat.
-/

set_option autoImplicit false

namespace SqlBinding.Json

/-- A piece of a string: a character, or a 16-bit code unit that is written as an escape. -/
inductive Piece
  | char (c : Char)
  | unit (code : Nat)
  deriving DecidableEq, Repr

/-- A number as it is written: its sign, the digits in front of the point, those behind it if there
is a point, and the power of ten if there is one. -/
structure NumberText where
  negative : Bool
  whole : List Char
  fraction : Option (List Char)
  power : Option Int
  deriving DecidableEq, Repr

/-- The tree of a JSON text. -/
inductive Document
  | null
  | bool (value : Bool)
  | number (n : NumberText)
  | string (pieces : List Piece)
  | list (items : List Document)
  | object (members : List (List Piece × Document))

/-- Whether a character may stand between the parts of a JSON text. -/
def isSpace (c : Char) : Bool := c == ' ' || c == '\n' || c == '\r' || c == '\t'

/-- A text without the blanks at its beginning. -/
def skip (cs : List Char) : List Char := cs.dropWhile isSpace

/-- A text does not get longer when blanks are skipped. -/
theorem skip_length (cs : List Char) : (skip cs).length ≤ cs.length :=
  (List.dropWhile_suffix _).length_le

/-- What stands behind the first character that is no blank is shorter than the text. -/
theorem length_lt_of_skip {cs rest : List Char} {c : Char} (h : skip cs = c :: rest) :
    rest.length < cs.length := by
  have := skip_length cs
  rw [h, List.length_cons] at this
  omega

/-- Something read at the beginning of a text, and what is left behind it. -/
structure Reading (α : Type) (cs : List Char) where
  value : α
  rest : List Char
  rest_lt : rest.length < cs.length

namespace Reading

variable {α β : Type} {cs ds : List Char}

/-- The same reading of a text that is no shorter. -/
def widen (h : ds.length ≤ cs.length) (r : Reading α ds) : Reading α cs :=
  ⟨r.value, r.rest, Nat.lt_of_lt_of_le r.rest_lt h⟩

/-- Something made of what was read. -/
def map (f : α → β) (r : Reading α cs) : Reading β cs := ⟨f r.value, r.rest, r.rest_lt⟩

end Reading

/-- The value of a hexadecimal digit. -/
def hexDigit? (c : Char) : Option Nat :=
  if c.isDigit then some (c.toNat - '0'.toNat)
  else if 'a' ≤ c ∧ c ≤ 'f' then some (c.toNat - 'a'.toNat + 10)
  else if 'A' ≤ c ∧ c ≤ 'F' then some (c.toNat - 'A'.toNat + 10)
  else none

/-- The code unit of four hexadecimal digits. -/
def unit? (a b c d : Char) : Option Nat :=
  match hexDigit? a, hexDigit? b, hexDigit? c, hexDigit? d with
  | some a, some b, some c, some d => some (((a * 16 + b) * 16 + c) * 16 + d)
  | _, _, _, _ => none

/-- The character that a letter behind a backslash stands for. -/
def escape? : Char → Option Char
  | '"' => some '"'
  | '\\' => some '\\'
  | '/' => some '/'
  | 'b' => some '\x08'
  | 'f' => some '\x0c'
  | 'n' => some '\n'
  | 'r' => some '\r'
  | 't' => some '\t'
  | _ => none

/-- Reads a string from behind its opening quote. -/
def readString : List Char → Option (List Piece × List Char)
  | [] => none
  | '"' :: rest => some ([], rest)
  | '\\' :: 'u' :: a :: b :: c :: d :: rest =>
    match unit? a b c d with
    | none => none
    | some code => (readString rest).map fun (ps, tail) => (.unit code :: ps, tail)
  | '\\' :: e :: rest =>
    match escape? e with
    | none => none
    | some c => (readString rest).map fun (ps, tail) => (.char c :: ps, tail)
  | c :: rest =>
    if c = '\\' ∨ c.toNat < 32 then none
    else (readString rest).map fun (ps, tail) => (.char c :: ps, tail)

/-- Reading a string uses up its closing quote at least. -/
theorem readString_length {cs rest : List Char} {ps : List Piece}
    (h : readString cs = some (ps, rest)) : rest.length < cs.length := by
  fun_induction readString cs generalizing ps with
  | case1 => simp at h
  | case2 => simp_all
  | case3 => simp at h
  | case4 a b c d after code hc ih =>
    obtain ⟨⟨t, r⟩, hp, heq⟩ := Option.map_eq_some_iff.1 h
    simp only [Prod.mk.injEq] at heq
    obtain ⟨-, rfl⟩ := heq
    have := ih hp
    simp only [List.length_cons]
    omega
  | case5 => simp at h
  | case6 e after _ c hc ih =>
    obtain ⟨⟨t, r⟩, hp, heq⟩ := Option.map_eq_some_iff.1 h
    simp only [Prod.mk.injEq] at heq
    obtain ⟨-, rfl⟩ := heq
    have := ih hp
    simp only [List.length_cons]
    omega
  | case7 => simp at h
  | case8 c after _ _ _ _ ih =>
    obtain ⟨⟨t, r⟩, hp, heq⟩ := Option.map_eq_some_iff.1 h
    simp only [Prod.mk.injEq] at heq
    obtain ⟨-, rfl⟩ := heq
    have := ih hp
    simp only [List.length_cons]
    omega

/-- Reads a run of digits, of which there must be one. -/
def readDigits (cs : List Char) : Option (List Char × List Char) :=
  if (cs.takeWhile Char.isDigit).isEmpty then none
  else some (cs.takeWhile Char.isDigit, cs.dropWhile Char.isDigit)

/-- Reads the digits in front of the point: no zero stands in front of another digit. -/
def readWhole (cs : List Char) : Option (List Char × List Char) :=
  match readDigits cs with
  | some ('0' :: _ :: _, _) => none
  | result => result

/-- Reads the digits behind a point, if there is a point. -/
def readFraction : List Char → Option (Option (List Char) × List Char)
  | '.' :: cs => (readDigits cs).map fun (ds, rest) => (some ds, rest)
  | cs => some (none, cs)

/-- Reads the power of ten behind its letter. -/
def readExponent (cs : List Char) : Option (Int × List Char) :=
  match cs with
  | '-' :: rest => (readDigits rest).map fun (ds, tail) => (-(Numeric.Decimal.value ds : Int), tail)
  | '+' :: rest => (readDigits rest).map fun (ds, tail) => ((Numeric.Decimal.value ds : Int), tail)
  | rest => (readDigits rest).map fun (ds, tail) => ((Numeric.Decimal.value ds : Int), tail)

/-- Reads the power of ten, if there is one. -/
def readPower : List Char → Option (Option Int × List Char)
  | 'e' :: cs => (readExponent cs).map fun (e, rest) => (some e, rest)
  | 'E' :: cs => (readExponent cs).map fun (e, rest) => (some e, rest)
  | cs => some (none, cs)

/-- Reads a number. -/
def readNumber (cs : List Char) : Option (NumberText × List Char) := do
  let negative := cs.head? == some '-'
  let (whole, rest) ← readWhole (if negative then cs.tail else cs)
  let (fraction, rest) ← readFraction rest
  let (power, rest) ← readPower rest
  some (⟨negative, whole, fraction, power⟩, rest)

/-- Reading digits uses up one at least. -/
theorem readDigits_length {cs ds rest : List Char} (h : readDigits cs = some (ds, rest)) :
    rest.length < cs.length := by
  unfold readDigits at h
  split at h
  · simp at h
  · rename_i hne
    simp only [Option.some.injEq, Prod.mk.injEq] at h
    have hsum : (cs.takeWhile Char.isDigit ++ cs.dropWhile Char.isDigit).length = cs.length := by
      rw [List.takeWhile_append_dropWhile]
    have hpos : 0 < (cs.takeWhile Char.isDigit).length := by
      rw [List.length_pos_iff]
      simpa using hne
    rw [List.length_append] at hsum
    rw [← h.2]
    omega

/-- Reading the digits in front of the point uses up one at least. -/
theorem readWhole_length {cs ds rest : List Char} (h : readWhole cs = some (ds, rest)) :
    rest.length < cs.length := by
  unfold readWhole at h
  split at h
  · simp at h
  · exact readDigits_length h

/-- Reading a fraction uses up nothing if there is no point. -/
theorem readFraction_length {cs rest : List Char} {f : Option (List Char)}
    (h : readFraction cs = some (f, rest)) : rest.length ≤ cs.length := by
  unfold readFraction at h
  split at h
  · obtain ⟨⟨ds, r⟩, hp, heq⟩ := Option.map_eq_some_iff.1 h
    simp only [Prod.mk.injEq] at heq
    have := readDigits_length hp
    rw [← heq.2, List.length_cons]
    omega
  · simp_all

/-- Reading a power of ten uses up one digit at least. -/
theorem readExponent_length {cs rest : List Char} {e : Int}
    (h : readExponent cs = some (e, rest)) : rest.length < cs.length := by
  unfold readExponent at h
  split at h
  · obtain ⟨⟨ds, r⟩, hp, heq⟩ := Option.map_eq_some_iff.1 h
    simp only [Prod.mk.injEq] at heq
    have := readDigits_length hp
    rw [← heq.2, List.length_cons]
    omega
  · obtain ⟨⟨ds, r⟩, hp, heq⟩ := Option.map_eq_some_iff.1 h
    simp only [Prod.mk.injEq] at heq
    have := readDigits_length hp
    rw [← heq.2, List.length_cons]
    omega
  · obtain ⟨⟨ds, r⟩, hp, heq⟩ := Option.map_eq_some_iff.1 h
    simp only [Prod.mk.injEq] at heq
    rw [← heq.2]
    exact readDigits_length hp

/-- Reading an optional power of ten never lengthens the text. -/
theorem readPower_length {cs rest : List Char} {p : Option Int}
    (h : readPower cs = some (p, rest)) : rest.length ≤ cs.length := by
  unfold readPower at h
  split at h
  · obtain ⟨⟨e, r⟩, hp, heq⟩ := Option.map_eq_some_iff.1 h
    simp only [Prod.mk.injEq] at heq
    have := readExponent_length hp
    rw [← heq.2, List.length_cons]
    omega
  · obtain ⟨⟨e, r⟩, hp, heq⟩ := Option.map_eq_some_iff.1 h
    simp only [Prod.mk.injEq] at heq
    have := readExponent_length hp
    rw [← heq.2, List.length_cons]
    omega
  · simp_all

/-- Reading a number uses up one digit at least. -/
theorem readNumber_length {cs rest : List Char} {n : NumberText}
    (h : readNumber cs = some (n, rest)) : rest.length < cs.length := by
  simp only [readNumber, Option.bind_eq_bind, Option.bind_eq_some_iff, Prod.exists] at h
  obtain ⟨whole, r₁, h₁, fraction, r₂, h₂, power, r₃, h₃, heq⟩ := h
  simp only [Option.some.injEq, Prod.mk.injEq] at heq
  have hw := readWhole_length h₁
  have hf := readFraction_length h₂
  have hp := readPower_length h₃
  have ht : (if (cs.head? == some '-') = true then cs.tail else cs).length ≤ cs.length := by
    split <;> simp
  rw [← heq.2]
  omega

/-- Reads the items of a list from where the next one is to begin: items that `read` reads, with
commas between them, and the closing bracket. -/
def readItems (read : (cs : List Char) → Option (Reading Document cs)) (cs : List Char) :
    Option (Reading (List Document) cs) :=
  match read (skip cs) with
  | none => none
  | some item =>
    match h : skip item.rest with
    | c :: rest =>
      have hlt : rest.length < cs.length :=
        Nat.lt_trans (length_lt_of_skip h) (Nat.lt_of_lt_of_le item.rest_lt (skip_length cs))
      if c = ',' then
        (readItems read rest).map fun items =>
          (items.map (item.value :: ·)).widen (Nat.le_of_lt hlt)
      else if c = ']' then some ⟨[item.value], rest, hlt⟩
      else none
    | [] => none
termination_by cs.length

/-- Reads the name of a member and the colon behind it. -/
def readName (cs : List Char) : Option (Reading (List Piece) cs) :=
  match h : skip cs with
  | '"' :: after =>
    match hs : readString after with
    | none => none
    | some (name, tail) =>
      match ht : skip tail with
      | ':' :: rest =>
        some ⟨name, rest, Nat.lt_trans (length_lt_of_skip ht)
          (Nat.lt_trans (readString_length hs) (length_lt_of_skip h))⟩
      | _ => none
  | _ => none

/-- Reads the members of an object from where the next one is to begin: names with values that
`read` reads, with commas between them, and the closing brace. -/
def readMembers (read : (cs : List Char) → Option (Reading Document cs)) (cs : List Char) :
    Option (Reading (List (List Piece × Document)) cs) :=
  match readName cs with
  | none => none
  | some name =>
    match read (skip name.rest) with
    | none => none
    | some item =>
      match h : skip item.rest with
      | c :: rest =>
        have hlt : rest.length < cs.length :=
          Nat.lt_trans (length_lt_of_skip h) (Nat.lt_trans (Nat.lt_of_lt_of_le item.rest_lt
            (skip_length name.rest)) name.rest_lt)
        if c = ',' then
          (readMembers read rest).map fun members =>
            (members.map ((name.value, item.value) :: ·)).widen (Nat.le_of_lt hlt)
        else if c = '\x7d' then some ⟨[(name.value, item.value)], rest, hlt⟩
        else none
      | [] => none
termination_by cs.length

/-- Reads a word that stands for a value. -/
def readWord (word : List Char) (value : Document) (cs : List Char) :
    Option (Reading Document cs) :=
  if h : word.isPrefixOf cs ∧ word ≠ [] then
    some ⟨value, cs.drop word.length, by
      have hle : word.length ≤ cs.length := (List.isPrefixOf_iff_prefix.1 h.1).length_le
      have hpos : 0 < word.length := List.length_pos_iff.2 h.2
      rw [List.length_drop]
      omega⟩
  else none

/-- Reads what comes behind the opening bracket of a list or the opening brace of an object: the
closing one, or contents. -/
def readContents {α : Type} (closing : Char) (empty : α)
    (contents : (cs : List Char) → Option (Reading α cs)) (cs : List Char) :
    Option (Reading α cs) :=
  match h : skip cs with
  | c :: rest => if c = closing then some ⟨empty, rest, length_lt_of_skip h⟩ else contents cs
  | [] => none

/-- Reads a value that has fewer than `levels` levels of lists and objects and stands at the
beginning of the text. -/
def readValue : Nat → (cs : List Char) → Option (Reading Document cs)
  | 0, _ => none
  | levels + 1, cs =>
    match cs with
    | [] => none
    | '[' :: rest =>
      (readContents ']' [] (readItems (readValue levels)) rest).map fun items =>
        (items.map .list).widen (Nat.le_succ _)
    | '\x7b' :: rest =>
      (readContents '\x7d' [] (readMembers (readValue levels)) rest).map fun members =>
        (members.map .object).widen (Nat.le_succ _)
    | '"' :: rest =>
      match h : readString rest with
      | none => none
      | some (pieces, tail) =>
        some ⟨.string pieces, tail, Nat.lt_of_lt_of_le (readString_length h) (Nat.le_succ _)⟩
    | 'n' :: rest => readWord "null".toList .null ('n' :: rest)
    | 't' :: rest => readWord "true".toList (.bool true) ('t' :: rest)
    | 'f' :: rest => readWord "false".toList (.bool false) ('f' :: rest)
    | c :: rest =>
      match h : readNumber (c :: rest) with
      | none => none
      | some (n, tail) => some ⟨.number n, tail, readNumber_length h⟩

/-- Reads a whole text. A text has fewer levels than characters. -/
def parse (cs : List Char) : Option Document :=
  match readValue cs.length (skip cs) with
  | none => none
  | some r => if (skip r.rest).isEmpty then some r.value else none

end SqlBinding.Json
