import SqlBinding.Argument.Basic
import SqlBinding.Json.Printer

/-!
# Arguments as JSON

Statement arguments are given on the command line as a JSON list, the rows of a batch as a list of
lists. A list inside a list of arguments is a list argument.
-/

set_option autoImplicit false

namespace SqlBinding.CommandLine

/-- Why a text gives no arguments. -/
inductive ArgumentsFault
  | argumentsNotJson
  | argumentsNotList (text : List Char)
  | rowsNotJson
  | rowsNotList (text : List Char)
  | rowNotList (row : List Char)
  | object
  deriving DecidableEq, Repr

/-- The wording of a fault. -/
def ArgumentsFault.message : ArgumentsFault → String
  | argumentsNotJson => "arguments must be a JSON array"
  | argumentsNotList text => "arguments must be a JSON array, got " ++ String.ofList text
  | rowsNotJson => "rows must be a JSON array"
  | rowsNotList text => "rows must be a JSON array of arrays, got " ++ String.ofList text
  | rowNotList row => "each row must be a JSON array, got " ++ String.ofList row
  | object => "objects are not valid arguments"

mutual

/-- The argument of a value. An object is none. -/
def argument : Json.Value → Except ArgumentsFault Argument
  | .null => .ok .null
  | .bool b => .ok (.bool b)
  | .number (.signed n) => .ok (.int n)
  | .number (.unsigned n) => .ok (.uint n)
  | .number (.double x) => .ok (.float64 x)
  | .text s => .ok (.text s)
  | .list items => (arguments items).map .list
  | .object _ => .error .object

/-- The arguments of the values of a list. -/
def arguments : List Json.Value → Except ArgumentsFault (List Argument)
  | [] => .ok []
  | v :: vs =>
    match argument v with
    | .error e => .error e
    | .ok a => (arguments vs).map (a :: ·)

end

/-- Reads the arguments of a statement. -/
def parseArguments (text : List Char) : Except ArgumentsFault (List Argument) :=
  match Json.Value.parse text with
  | none => .error .argumentsNotJson
  | some (.list items) => arguments items
  | some _ => .error (.argumentsNotList text)

/-- The rows of the values of a list. -/
def rows : List Json.Value → Except ArgumentsFault (List (List Argument))
  | [] => .ok []
  | .list items :: rest =>
    match arguments items with
    | .error e => .error e
    | .ok row => (rows rest).map (row :: ·)
  | v :: _ => .error (.rowNotList v.compact)

/-- Reads the rows of a batch. -/
def parseRows (text : List Char) : Except ArgumentsFault (List (List Argument)) :=
  match Json.Value.parse text with
  | none => .error .rowsNotJson
  | some (.list items) => rows items
  | some _ => .error (.rowsNotList text)

end SqlBinding.CommandLine
