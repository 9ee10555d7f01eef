import SqlBinding.NameMap

/-!
# Invocations

What a command line asks for. Options come as `-x value`, `-xvalue`, `--name value` or
`--name=value`, flags as `-x` or `--name`, several short ones in one; an option is given at most
once, and a value of its own word does not begin with a hyphen. Behind `--` every word stands for
itself.
-/

set_option autoImplicit false

namespace SqlBinding.CommandLine

/-- An option that may be given: its letter, its name, and whether it takes a value. -/
structure OptionSpec where
  letter : Option Char
  name : String
  takesValue : Bool
  deriving DecidableEq, Repr

/-- Options as they were given: flags have an empty value. -/
abbrev Given := NameMap String

/-- Options with another one given, unless it is given already. -/
def give (name value : String) (g : Given) : Option Given :=
  if (g.get? name).isSome then none else some (g.insert name value)

/-- What a word does: it gives options, the last of which may wait for its value in the next one. -/
structure WordEffect where
  given : Given
  waiting : Option String

/-- Gives the options of a run of letters. -/
def giveLetters (specs : List OptionSpec) : List Char → Given → Option WordEffect
  | [], g => some ⟨g, none⟩
  | c :: cs, g =>
    match specs.find? fun s => s.letter == some c with
    | none => none
    | some s =>
      if s.takesValue then
        match cs with
        | [] => some ⟨g, some s.name⟩
        | '=' :: value => (give s.name (String.ofList value) g).map fun g => ⟨g, none⟩
        | value => (give s.name (String.ofList value) g).map fun g => ⟨g, none⟩
      else (give s.name "" g).bind (giveLetters specs cs)

/-- Gives the option of a name, behind which a value may stand. -/
def giveName (specs : List OptionSpec) (cs : List Char) (g : Given) : Option WordEffect :=
  let name := String.ofList (cs.takeWhile (· != '='))
  match specs.find? fun s => s.name == name, cs.dropWhile (· != '=') with
  | none, _ => none
  | some s, '=' :: value =>
    if s.takesValue then (give name (String.ofList value) g).map fun g => ⟨g, none⟩ else none
  | some s, _ =>
    if s.takesValue then some ⟨g, some name⟩ else (give name "" g).map fun g => ⟨g, none⟩

/-- What a word is. -/
inductive Word
  | plain
  | letters (cs : List Char)
  | name (cs : List Char)
  /-- From here on every word stands for itself. -/
  | separator
  deriving DecidableEq, Repr

/-- What a word is by its first characters. -/
def Word.of (w : String) : Word :=
  match w.toList with
  | ['-', '-'] => separator
  | '-' :: '-' :: cs => name cs
  | '-' :: c :: cs => letters (c :: cs)
  | _ => plain

/-- Reads the options in front of the first plain word. -/
def leadingOptions (specs : List OptionSpec) :
    List String → Option String → Given → Option (Given × List String)
  | [], none, g => some (g, [])
  | [], some _, _ => none
  | w :: ws, some name, g =>
    match Word.of w with
    | .plain => (give name w g).bind (leadingOptions specs ws none)
    | _ => none
  | w :: ws, none, g =>
    match Word.of w with
    | .plain => some (g, w :: ws)
    | .letters cs => (giveLetters specs cs g).bind fun e => leadingOptions specs ws e.waiting e.given
    | .name cs => (giveName specs cs g).bind fun e => leadingOptions specs ws e.waiting e.given
    | .separator => none

/-- Reads the options and the plain words of a command. -/
def optionsAndWords (specs : List OptionSpec) :
    List String → Option String → Given → Option (Given × List String)
  | [], none, g => some (g, [])
  | [], some _, _ => none
  | w :: ws, some name, g =>
    match Word.of w with
    | .plain => (give name w g).bind (optionsAndWords specs ws none)
    | _ => none
  | w :: ws, none, g =>
    match Word.of w with
    | .plain => (optionsAndWords specs ws none g).map fun (g, words) => (g, w :: words)
    | .letters cs =>
      (giveLetters specs cs g).bind fun e => optionsAndWords specs ws e.waiting e.given
    | .name cs => (giveName specs cs g).bind fun e => optionsAndWords specs ws e.waiting e.given
    | .separator => some (g, ws)

/-- The commands. -/
inductive Command
  | format (template arguments : String)
  | batch (template rows : String)
  | query (template arguments : String)
  | exec (statements : List String) (arguments : String)
  deriving DecidableEq, Repr

/-- What a command line asks for. -/
structure Invocation where
  database : String
  driver : String
  config : Option String
  command : Command
  deriving DecidableEq, Repr

/-- The options in front of the command. -/
def generalOptions : List OptionSpec :=
  [⟨some 'd', "database", true⟩, ⟨none, "driver", true⟩, ⟨some 'c', "config", true⟩,
    ⟨some 'v', "verbose", false⟩]

/-- The option for arguments. -/
def argumentsOption : OptionSpec := ⟨some 'a', "args", true⟩

/-- The option for rows. -/
def rowsOption : OptionSpec := ⟨some 'r', "rows", true⟩

/-- The arguments given, by default none. -/
def argumentsOf (g : Given) : String := (g.get? argumentsOption.name).getD "[]"

/-- Reads a command behind its name. -/
def Command.parse (name : String) (words : List String) : Option Command :=
  match name with
  | "format" =>
    match optionsAndWords [argumentsOption] words none .empty with
    | some (g, [template]) => some (format template (argumentsOf g))
    | _ => none
  | "batch" =>
    match optionsAndWords [rowsOption] words none .empty with
    | some (g, [template]) => (g.get? rowsOption.name).map (batch template)
    | _ => none
  | "query" =>
    match optionsAndWords [argumentsOption] words none .empty with
    | some (g, [template]) => some (query template (argumentsOf g))
    | _ => none
  | "exec" =>
    match optionsAndWords [argumentsOption] words none .empty with
    | some (g, statement :: statements) => some (exec (statement :: statements) (argumentsOf g))
    | _ => none
  | _ => none

/-- Reads a command line. The database is `home` unless it is given; a path is not empty. -/
def Invocation.parse (home : String) (words : List String) : Option Invocation :=
  match leadingOptions generalOptions words none .empty with
  | some (g, name :: rest) =>
    if g.get? "config" = some "" then none
    else
      (Command.parse name rest).map fun command =>
        ⟨(g.get? "database").getD home, (g.get? "driver").getD "sqlite", g.get? "config", command⟩
  | _ => none

end SqlBinding.CommandLine
