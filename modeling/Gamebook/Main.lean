import Gamebook.Cli.Arguments

/-!
# The program

Reads the file that the command line names and prints what the command gives.
-/

open Gamebook.Cli

/-- The bytes of the file, or why there are none. -/
def readScript (path : String) : IO (Except ReadFault ByteArray) := do
  try
    return .ok (← IO.FS.readBinFile path)
  catch
    | .noFileOrDirectory .. => return .error .notFound
    | fault => return .error (.refused fault.toString)

/-- Runs one command line. -/
def main (words : List String) : IO UInt32 := do
  match Arguments.ofWords? words with
  | none =>
    IO.eprintln Arguments.usage
    return 2
  | some arguments =>
    let content ← readScript arguments.path
    let output := run arguments.command arguments.options arguments.path content
    IO.print output.stdout
    IO.eprint output.stderr
    return output.exitStatus.toUInt32
