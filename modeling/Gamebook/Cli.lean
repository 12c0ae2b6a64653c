import Gamebook.Json
import Gamebook.Report.Counts
import Gamebook.Report.Outline
import Gamebook.Report.Record
import Gamebook.Report.Tree
import Gamebook.Report.Verdict
import Gamebook.Script.Parse

/-!
# The command line

Three commands read one script file.  `parse` shows the book, `validate` looks
for an error and for dangling links, and `stats` counts.  What a command prints
is a function of its options and of what reading the file gave, so it is defined
here without any input or output.

A command fails with exit status one if the file cannot be read, is not UTF-8,
or has no book.  Its last line on the error stream then begins with `error:`.
-/

namespace Gamebook.Cli

open Gamebook.Report Gamebook.Script Gamebook.Story

/-! ## Requests -/

/-- What to do with the script. -/
inductive Command where
  /-- Show the book. -/
  | parse
  /-- Look for an error and for dangling links. -/
  | validate
  /-- Count. -/
  | stats
  deriving DecidableEq, Repr

/-- How to do it. -/
structure Options where
  /-- Print JSON. -/
  json : Bool
  /-- Show the whole tree. -/
  verbose : Bool
  /-- Let branches go on across sections. -/
  lenient : Bool
  /-- What introduces a directive line. -/
  marker : Marker
  deriving DecidableEq

/-- The way open branches are treated. -/
def Options.mode (options : Options) : Mode := if options.lenient then .lenient else .strict

/-- Why there is no text to work on. -/
inductive ReadFault where
  /-- There is no such file. -/
  | notFound
  /-- The file is not UTF-8. -/
  | notUtf8
  /-- The system gives another reason. -/
  | refused (reason : String)
  deriving DecidableEq, Repr

/-- The reason in words. -/
def ReadFault.message : ReadFault → String
  | .notFound => "No such file or directory (os error 2)"
  | .notUtf8 => "stream did not contain valid UTF-8"
  | .refused reason => reason

/-! ## Output -/

/-- What a command leaves: an exit status and the text on two streams. -/
structure Output where
  /-- Zero for success. -/
  exitStatus : Nat
  /-- The text on the output stream. -/
  stdout : String
  /-- The text on the error stream. -/
  stderr : String
  deriving DecidableEq, Repr

/-- The lines with a newline after each. -/
def unlines (lines : List String) : String := String.join (lines.map (· ++ "\n"))

namespace Output

/-- A command that has done its work. -/
def success (out : List String) (warnings : List String) : Output :=
  ⟨0, unlines out, unlines warnings⟩

/-- A command that has failed for this reason, after other output. -/
def failure (out : List String) (notes : List String) (reason : String) : Output :=
  ⟨1, unlines out, unlines (notes ++ ["error: " ++ reason])⟩

end Output

/-! ## Commands -/

/-- The output of `parse` for a book. -/
def showBook (options : Options) (book : Book) : List String :=
  if options.json then [Json.pretty (Record.ofBook book)]
  else if options.verbose then Tree.ofBook book
  else Outline.ofBook book

/-- The output of `stats` for a book. -/
def showCounts (options : Options) (book : Book) : List String :=
  if options.json then [Json.pretty (Counts.record book.tally)]
  else Counts.table book.title book.tally

/-- The output of `validate`. -/
def showVerdict (options : Options) (verdict : Verdict) : Output :=
  let report := if options.json then [Json.compact verdict.record] else []
  match verdict with
  | .invalid error =>
    let notes := if options.json then [] else ["Invalid: " ++ error.display]
    .failure report notes "1 error found"
  | .valid dangling =>
    if options.json then .success report []
    else .success ["Valid: no errors found, " ++ dangling.length.repr ++ " warning(s)"]
      (dangling.map ("warning: " ++ Verdict.describe ·))

/-- The output of a command for a script. -/
def runText (command : Command) (options : Options) (script : String) : Output :=
  let result := (parseText options.mode options.marker script).result
  match command, result with
  | .validate, result => showVerdict options (.ofResult result)
  | _, .error error => .failure [] [] error.display
  | .parse, .ok book => .success (showBook options book) []
  | .stats, .ok book => .success (showCounts options book) []

/-- The text of a file that was read, or a fault. -/
def decode (content : Except ReadFault ByteArray) : Except ReadFault String :=
  match content with
  | .error fault => .error fault
  | .ok bytes =>
    match String.fromUTF8? bytes with
    | some script => .ok script
    | none => .error .notUtf8

/-- The output of a command, given what reading the file at the path gave. -/
def run (command : Command) (options : Options) (path : String)
    (content : Except ReadFault ByteArray) : Output :=
  match decode content with
  | .error fault => .failure [] [] ("failed to read '" ++ path ++ "': " ++ fault.message)
  | .ok script => runText command options script

end Gamebook.Cli
