import SqlBinding.CommandLine.Run

/-!
# The command

Reads the command line, prints what the command prints, and exits with 1 if the command fails and
with 2 if there is no such command.
-/

set_option autoImplicit false

namespace SqlBinding.CommandLine

/-- Why a file cannot be read, in the words of the system. -/
def reasonOf : IO.Error → String
  | .noFileOrDirectory _ code details => details ++ " (os error " ++ toString code ++ ")"
  | .permissionDenied _ code details => details ++ " (os error " ++ toString code ++ ")"
  | .inappropriateType _ code details => details ++ " (os error " ++ toString code ++ ")"
  | e => toString e

/-- The content of a file, or the reason why it cannot be read. -/
def contentOf (path : String) : IO (Except String (List UInt8)) := do
  try
    let bytes ← IO.FS.readBinFile path
    return .ok bytes.toList
  catch e => return .error (reasonOf e)

/-- Runs an invocation. -/
def Invocation.run (i : Invocation) : IO UInt32 := do
  let content ← match i.config with
    | some path => contentOf path
    | none => pure (.ok [])
  match i.output (fun _ => content) with
  | .ok out =>
    IO.print (String.ofList out)
    return 0
  | .error f =>
    IO.eprintln ("Error: " ++ f.message)
    return 1

end SqlBinding.CommandLine

/-- Runs the command line. -/
def main (words : List String) : IO UInt32 := do
  let home := (← IO.getEnv "DATABASE_URL").getD SqlBinding.CommandLine.defaultDatabase
  match SqlBinding.CommandLine.Invocation.parse home words with
  | some i => i.run
  | none =>
    IO.eprintln "usage: [-d DATABASE] [--driver DRIVER] [-c FILE] [-v] COMMAND ..."
    return 2
