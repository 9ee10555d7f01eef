import SqlBinding.Literal
import SqlBinding.Text.Basic

/-!
# Statements

A template is SQL text in which every `?`, wherever it stands, is a placeholder. `format` puts the
literals of the arguments in the places of the placeholders, `batch` repeats the value group of a
template for every row, and `withReturning` asks a statement for a column of the rows it changes.
-/

set_option autoImplicit false

namespace SqlBinding.Statement

open Text

/-- The placeholder. -/
def placeholder : Char := '?'

/-- Number of placeholders in a template. -/
def placeholders (template : List Char) : Nat := template.count placeholder

/-- Puts literals in the places of the placeholders, from left to right; the first argument without
a literal decides. -/
def fill (d : Dialect) : List Char → List Argument → Except Error (List Char)
  | [], _ => .ok []
  | c :: template, arguments =>
    if c = placeholder then
      match arguments with
      | [] => (fill d template []).map (c :: ·)
      | a :: rest =>
        match a.literal d with
        | .error e => .error e
        | .ok text => (fill d template rest).map (text ++ ·)
    else (fill d template arguments).map (c :: ·)

/-- A template with the literals of its arguments. Without arguments, or without placeholders, it is
returned as it is. -/
def format (d : Dialect) (template : List Char) (arguments : List Argument) :
    Except Error (List Char) :=
  if arguments.isEmpty || placeholders template == 0 then .ok template
  else if placeholders template = arguments.length then fill d template arguments
  else .error (.statementFormat (placeholders template) arguments.length)

/-- The end of a value group behind its last comma: placeholders, blanks and a closing parenthesis.
Returns the text behind the group. -/
def groupEnd (cs : List Char) : Option (List Char) :=
  match (cs.dropWhile (· == placeholder)).dropWhile isBlank with
  | ')' :: rest => some rest
  | _ => none

/-- What stands behind a placeholder, a comma and blanks at the beginning of a text. -/
def groupItem? : List Char → Option (List Char)
  | '?' :: ',' :: rest => some (trimStart rest)
  | _ => none

/-- What is left behind an item is shorter than the text. -/
theorem groupItem?_length {cs rest : List Char} (h : groupItem? cs = some rest) :
    rest.length < cs.length := by
  unfold groupItem? at h
  split at h
  · rename_i tail
    simp only [Option.some.injEq] at h
    have hle : (tail.dropWhile isBlank).length ≤ tail.length :=
      (List.dropWhile_suffix isBlank).length_le
    rw [← h, trimStart]
    simp only [List.length_cons]
    omega
  · simp at h

/-- Reads further items of a value group and its end. -/
def groupTail (cs : List Char) : Option (List Char) :=
  match _h : groupItem? cs with
  | some rest => groupTail rest
  | none => groupEnd cs
termination_by cs.length
decreasing_by exact groupItem?_length ‹_›

/-- Reads a value group at the beginning of a text: an opening parenthesis, at least one placeholder
with a comma, and the end of the group. Returns the text behind it. -/
def valueGroup? : List Char → Option (List Char)
  | '(' :: cs => (groupItem? cs).bind groupTail
  | _ => none

/-- Number of positions at which a value group begins. -/
def groupCount : List Char → Nat
  | [] => 0
  | c :: cs => groupCount cs + if (valueGroup? (c :: cs)).isSome then 1 else 0

/-- Splits a template at its first value group into the text before the group and the group. -/
def splitGroup : List Char → Option (List Char × List Char)
  | [] => none
  | c :: cs =>
    match valueGroup? (c :: cs) with
    | some rest => some ([], (c :: cs).take ((c :: cs).length - rest.length))
    | none => (splitGroup cs).map fun (before, group) => (c :: before, group)

/-- The value group of every row; the first row that cannot be formatted decides. -/
def formatRows (d : Dialect) (group : List Char) :
    List (List Argument) → Except Error (List (List Char))
  | [] => .ok []
  | row :: rows =>
    match format d group row with
    | .error e => .error e
    | .ok text => (formatRows d group rows).map (text :: ·)

/-- One statement for several rows: the text before the only value group of the template, the group
once for every row, and a semicolon. What stands behind the group is dropped. -/
def batch (d : Dialect) (template : List Char) (rows : List (List Argument)) :
    Except Error (List Char) :=
  match splitGroup template with
  | none => .error (.statementSyntax .noGroup)
  | some (before, group) =>
    if 1 < groupCount template then .error (.statementSyntax .severalGroups)
    else if rows.isEmpty then .error .emptyArrayArgument
    else (formatRows d group rows).map fun groups =>
      before ++ List.intercalate [','] groups ++ [';']

/-- The statement of every row, each with a semicolon behind it. -/
def formatAll (d : Dialect) (template : List Char) :
    List (List Argument) → Except Error (List Char)
  | [] => .ok []
  | row :: rows =>
    match format d template row with
    | .error e => .error e
    | .ok text => (formatAll d template rows).map ((text ++ [';']) ++ ·)

/-- A statement that also returns a column of the rows it changes. The clause goes in front of what
terminates the statement, which is dropped. -/
def withReturning (statement : List Char) (field : List Char) : List Char :=
  trimEnd (dropEndWhile (· == ';') (trimEnd statement)) ++ " RETURNING ".toList ++ field

end SqlBinding.Statement
