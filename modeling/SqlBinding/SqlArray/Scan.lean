import SqlBinding.SqlArray.Grammar

/-!
# Array text as a loop reads it

The reading of array text in single steps, with a position in the text, the current depth, and three
lists with a place for every depth: the entry counts that are settled, whether they are, and the
entries counted so far of the arrays that are open. A place that does not exist is a `fault`.
-/

set_option autoImplicit false

namespace SqlBinding.SqlArray.Scan

/-- What comes next: an entry, or what stands behind one. -/
inductive Phase
  | entry
  | behind
  deriving DecidableEq, Repr

/-- What the loop holds. The first `depth` levels are open. -/
structure State where
  phase : Phase
  position : Nat
  depth : Nat
  dims : List Nat
  seen : List Bool
  counts : List Nat
  elements : Elements
  deriving DecidableEq, Repr

/-- What the reading of array text results in. -/
abbrev Result := Except ArrayError (List Nat × Elements)

/-- One step of the loop: it goes on, ends, or asks for a place that is out of range. -/
inductive Step
  | next (s : State)
  | stop (result : Result)
  | fault

/-- The error at a position of the text. -/
def unexpectedAt (src : List Char) (position : Nat) (expected : String) : ArrayError :=
  .unexpected src[position]? (byteLength (src.take position)) expected

/-- The element at a position of the text, and the position behind it. -/
def elementAt (delimiter : Char) (src : List Char) (position : Nat) :
    Option (Option (List Char) × Nat) :=
  (readElement delimiter (src.drop position)).map fun (element, rest) =>
    (element, src.length - rest.length)

/-- Reads an entry: an element at the innermost level, unless the level closes before its first one,
and an opening brace elsewhere. -/
def stepEntry (delimiter : Char) (src : List Char) (s : State) : Step :=
  if s.depth = s.dims.length then
    match s.depth with
    | 0 => .fault
    | level + 1 =>
      match s.counts[level]? with
      | none => .fault
      | some count =>
        if count = 0 ∧ src[s.position]? = some '\x7d' then .next { s with phase := .behind }
        else match elementAt delimiter src s.position with
          | none => .stop (.error (unexpectedAt src src.length "'\"'"))
          | some (element, position) =>
            .next { s with
              phase := .behind, position, counts := s.counts.set level (count + 1),
              elements := s.elements ++ [element] }
  else if src[s.position]? = some '\x7b' then
    if s.depth < s.counts.length then
      .next { s with
        position := s.position + 1, depth := s.depth + 1, counts := s.counts.set s.depth 0 }
    else .fault
  else .stop (.error .ragged)

/-- Goes on behind a closing brace, where an array of the level that is open now has been read. -/
def leave (src : List Char) (s : State) : Step :=
  match s.depth with
  | 0 =>
    if src[s.position]? = none then .stop (.ok (s.dims, s.elements))
    else .stop (.error (unexpectedAt src s.position "end of input"))
  | level + 1 =>
    match s.counts[level]? with
    | none => .fault
    | some count => .next { s with counts := s.counts.set level (count + 1) }

/-- Closes a level, whose count settles the dimension of its depth or is held to it. -/
def close (src : List Char) (s : State) : Step :=
  match s.depth with
  | 0 => .fault
  | level + 1 =>
    match s.seen[level]?, s.dims[level]?, s.counts[level]? with
    | some true, some n, some count =>
      if n = count then leave src { s with position := s.position + 1, depth := level }
      else .stop (.error .ragged)
    | some false, some _, some count =>
      leave src { s with
        position := s.position + 1, depth := level, dims := s.dims.set level count,
        seen := s.seen.set level true }
    | _, _, _ => .fault

/-- Reads what stands behind an entry. -/
def stepBehind (delimiter : Char) (src : List Char) (s : State) : Step :=
  match src[s.position]? with
  | none => .stop (.error (unexpectedAt src s.position "delimiter or '\x7d'"))
  | some c =>
    if c = delimiter then .next { s with phase := .entry, position := s.position + 1 }
    else if c = '\x7d' then close src s
    else .stop (.error (unexpectedAt src s.position "delimiter or '\x7d'"))

/-- One step of the loop. -/
def step (delimiter : Char) (src : List Char) (s : State) : Step :=
  match s.phase with
  | .entry => stepEntry delimiter src s
  | .behind => stepBehind delimiter src s

/-- What comes before the loop: the opening braces at the beginning tell the number of levels, and
the empty array has none. -/
def start (src : List Char) : Step :=
  let levels := (src.takeWhile (· == '\x7b')).length
  if levels = 0 then .stop (.error (unexpectedAt src 0 "'\x7b'"))
  else if levels = 1 ∧ src[1]? = some '\x7d' then
    if src[2]? = none then .stop (.ok ([], []))
    else .stop (.error (unexpectedAt src 2 "end of input"))
  else .next {
    phase := .entry, position := levels, depth := levels, dims := List.replicate levels 0,
    seen := List.replicate levels false, counts := List.replicate levels 0, elements := [] }

/-- Whether the loop comes to an end with a result, without a fault. -/
inductive Yields (delimiter : Char) (src : List Char) : Step → Result → Prop
  | stop (result : Result) : Yields delimiter src (.stop result) result
  | next {s : State} {result : Result} :
    Yields delimiter src (step delimiter src s) result → Yields delimiter src (.next s) result

end SqlBinding.SqlArray.Scan
