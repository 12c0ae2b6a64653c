import Gamebook.Json
import Gamebook.Script.Fault
import Gamebook.Story.Lookup

/-!
# The verdict on a script

Validation finds a script either invalid, with the one error that ended its
parse, or valid, with a warning for each link that dangles.  As JSON, a verdict
is one object with the keys in alphabetical order at every level.
-/

namespace Gamebook.Report

open Gamebook.Script Gamebook.Story

/-- What validation finds. -/
inductive Verdict where
  /-- The script has no book. -/
  | invalid (error : ParseError)
  /-- The script has a book, in which these links dangle. -/
  | valid (dangling : List PlacedLink)
  deriving DecidableEq, Repr

namespace Verdict

/-- The verdict on the result of a parse. -/
def ofResult : Except ParseError Book → Verdict
  | .error error => .invalid error
  | .ok book => .valid book.danglingLinks

/-- A dangling link in words. -/
def describe (placed : PlacedLink) : String :=
  "link " ++ quoted placed.link.title ++ " in " ++ placed.chapterId ++ "/" ++ placed.sectionId ++
    " points to missing section " ++ placed.link.chapterId ++ "/" ++ placed.link.sectionId

/-- An error with its place. -/
def errorRecord (error : ParseError) : Json :=
  .obj [("chapter", .optStr error.scope.chapterId),
    ("kind", .str error.kind.name),
    ("line", .optNum error.line?),
    ("message", .str error.message),
    ("section", .optStr error.scope.sectionId)]

/-- The verdict as one object. -/
def record : Verdict → Json
  | invalid error =>
    .obj [("errors", .arr [errorRecord error]), ("valid", .bool false), ("warnings", .arr [])]
  | valid dangling =>
    .obj [("errors", .arr []), ("valid", .bool true),
      ("warnings", .arr (dangling.map (.str ∘ describe)))]

end Verdict

end Gamebook.Report
