import SqlBinding.Sqlite.Statement
import SqlBinding.Sqlite.Token

/-!
# Reading SQL statements

Statements are read from their tokens from left to right. Each reader returns what it has read and
the tokens behind it.
-/

set_option autoImplicit false

namespace SqlBinding.Sqlite.Grammar

/-- A reader of something at the beginning of tokens. -/
abbrev Reader (α : Type) := List Token → Option (α × List Token)

/-- Reads a keyword. -/
def keyword (k : String) : List Token → Option (List Token)
  | .word w :: rest => if upper w = k then some rest else none
  | _ => none

/-- Reads a character. -/
def symbol (c : Char) : List Token → Option (List Token)
  | .symbol d :: rest => if d = c then some rest else none
  | _ => none

/-- Reads a name. -/
def name : Reader String
  | .word w :: rest => some (w, rest)
  | _ => none

/-- Reads a literal. -/
def literal : Reader Cell
  | .literal c :: rest => some (c, rest)
  | .word w :: rest => if upper w = "NULL" then some (.null, rest) else none
  | _ => none

section

variable {α : Type}

/-- Reads at most `count` items with commas between them. -/
def itemsUpTo (item : Reader α) : Nat → Reader (List α)
  | 0, _ => none
  | count + 1, tokens =>
    match item tokens with
    | none => none
    | some (a, .symbol ',' :: rest) =>
      (itemsUpTo item count rest).map fun (as, tail) => (a :: as, tail)
    | some (a, rest) => some ([a], rest)

/-- Reads items with commas between them. -/
def items (item : Reader α) (tokens : List Token) : Option (List α × List Token) :=
  itemsUpTo item tokens.length tokens

/-- Reads items with commas between them and parentheses around them. -/
def group (item : Reader α) (tokens : List Token) : Option (List α × List Token) := do
  let rest ← symbol '(' tokens
  let (as, rest) ← items item rest
  let rest ← symbol ')' rest
  some (as, rest)

/-- Reads what follows a keyword, if the keyword is there. -/
def clause (k : String) (content : Reader α) (tokens : List Token) :
    Option (Option α × List Token) :=
  match keyword k tokens with
  | none => some (none, tokens)
  | some rest => (content rest).map fun (a, tail) => (some a, tail)

end

/-- Whether a word begins a constraint. -/
def isConstraint (w : String) : Bool := ["PRIMARY", "NOT", "DEFAULT"].contains (upper w)

/-- Reads the words of a type. -/
def typeWords : List Token → List String × List Token
  | .word w :: rest =>
    if isConstraint w then ([], .word w :: rest)
    else
      match typeWords rest with
      | (words, tail) => (w :: words, tail)
  | tokens => ([], tokens)

/-- Reads the length in parentheses that may follow a type. -/
def typeLength : List Token → String × List Token
  | .symbol '(' :: .literal (.int n) :: .symbol ')' :: rest =>
    ("(" ++ String.ofList n.text ++ ")", rest)
  | .symbol '(' :: .literal (.int n) :: .symbol ',' :: .literal (.int m) :: .symbol ')' :: rest =>
    ("(" ++ String.ofList n.text ++ "," ++ String.ofList m.text ++ ")", rest)
  | tokens => ("", tokens)

/-- Reads the constraints behind a type. -/
def constraints (c : ColumnDef) : List Token → ColumnDef × List Token
  | .word a :: .word b :: rest =>
    if upper a = "PRIMARY" ∧ upper b = "KEY" then constraints { c with primaryKey := true } rest
    else if upper a = "NOT" ∧ upper b = "NULL" then constraints { c with notNull := true } rest
    else if upper a = "DEFAULT" ∧ upper b = "NULL" then constraints { c with default := .null } rest
    else (c, .word a :: .word b :: rest)
  | .word a :: .literal d :: rest =>
    if upper a = "DEFAULT" then constraints { c with default := d } rest
    else (c, .word a :: .literal d :: rest)
  | tokens => (c, tokens)

/-- Reads the declaration of a column. -/
def columnDef : Reader ColumnDef := fun tokens =>
  match name tokens with
  | none => none
  | some (n, rest) =>
    let (words, rest) := typeWords rest
    let (length, rest) := typeLength rest
    some (constraints ⟨n, " ".intercalate words ++ length, false, false, .null⟩ rest)

/-- Reads a value and the name it is given. -/
def constant : Reader (Cell × String) := fun tokens => do
  let (c, rest) ← literal tokens
  let rest ← keyword "AS" rest
  let (n, rest) ← name rest
  some ((c, n), rest)

/-- Reads a column and the name it may be given. -/
def selected : Reader Selected := fun tokens => do
  let (c, rest) ← name tokens
  let (n, rest) ← clause "AS" name rest
  some (⟨c, n⟩, rest)

/-- Reads what a statement returns. -/
def selection : Reader Selection
  | .symbol '*' :: rest => some (.all, rest)
  | .word w :: .symbol '(' :: rest =>
    if upper w = "COUNT" then do
      let rest ← symbol '*' rest
      let rest ← symbol ')' rest
      let rest ← keyword "AS" rest
      let (n, rest) ← name rest
      some (.count n, rest)
    else none
  | tokens => (items selected tokens).map fun (cs, rest) => (.columns cs, rest)

/-- Reads the condition on the rows of a statement. -/
def condition : Reader Filter := fun tokens => do
  let (c, rest) ← name tokens
  match symbol '=' rest with
  | some rest =>
    let (v, rest) ← literal rest
    some (⟨c, [v]⟩, rest)
  | none =>
    let rest ← keyword "IN" rest
    let (vs, rest) ← group literal rest
    some (⟨c, vs⟩, rest)

/-- Reads an assignment. -/
def assignment : Reader (String × Cell) := fun tokens => do
  let (c, rest) ← name tokens
  let rest ← symbol '=' rest
  let (v, rest) ← literal rest
  some ((c, v), rest)

/-- Nothing may follow. -/
def finish (s : Statement) (rest : List Token) : Option Statement :=
  if rest.isEmpty then some s else none

/-- Reads the declaration of a table behind its first word. -/
def createTable (tokens : List Token) : Option Statement := do
  let rest ← keyword "TABLE" tokens
  let (table, rest) ← name rest
  let (columns, rest) ← group columnDef rest
  finish (.createTable table columns) rest

/-- Reads the names of the columns of an insertion, which may be left out. -/
def columnNames (tokens : List Token) : Option (Option (List String) × List Token) :=
  match tokens with
  | .symbol '(' :: _ => (group name tokens).map fun (cs, rest) => (some cs, rest)
  | _ => some (none, tokens)

/-- Reads an insertion behind its first word. -/
def insert (tokens : List Token) : Option Statement := do
  let rest ← keyword "INTO" tokens
  let (table, rest) ← name rest
  let (columns, rest) ← columnNames rest
  let rest ← keyword "VALUES" rest
  let (rows, rest) ← items (group literal) rest
  let (returning, rest) ← clause "RETURNING" selection rest
  finish (.insert table columns rows returning) rest

/-- Reads an update behind its first word. -/
def update (tokens : List Token) : Option Statement := do
  let (table, rest) ← name tokens
  let rest ← keyword "SET" rest
  let (assignments, rest) ← items assignment rest
  let (filter, rest) ← clause "WHERE" condition rest
  let (returning, rest) ← clause "RETURNING" selection rest
  finish (.update table assignments filter returning) rest

/-- Reads a deletion behind its first word. -/
def delete (tokens : List Token) : Option Statement := do
  let rest ← keyword "FROM" tokens
  let (table, rest) ← name rest
  let (filter, rest) ← clause "WHERE" condition rest
  let (returning, rest) ← clause "RETURNING" selection rest
  finish (.delete table filter returning) rest

/-- Reads the order of a selection. -/
def order : Reader String := fun tokens => do
  let rest ← keyword "BY" tokens
  name rest

/-- Reads a selection from a table behind its first word. -/
def select (tokens : List Token) : Option Statement := do
  let (what, rest) ← selection tokens
  let rest ← keyword "FROM" rest
  let (table, rest) ← name rest
  let (filter, rest) ← clause "WHERE" condition rest
  let (sorting, rest) ← clause "ORDER" order rest
  finish (.select what table filter sorting) rest

/-- Reads a selection behind its first word: values, or columns of a table. -/
def selectAny (tokens : List Token) : Option Statement :=
  match items constant tokens with
  | some (values, []) => some (.constants values)
  | _ => select tokens

/-- Reads a statement. -/
def statement : List Token → Option Statement
  | .word w :: rest =>
    match upper w with
    | "CREATE" => createTable rest
    | "INSERT" => insert rest
    | "UPDATE" => update rest
    | "DELETE" => delete rest
    | "SELECT" => selectAny rest
    | _ => none
  | _ => none

end SqlBinding.Sqlite.Grammar
