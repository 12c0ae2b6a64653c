import Gamebook.Json
import Gamebook.Story.Tally

/-!
# Reporting a tally

The counts of a book as a table to read and as a JSON object.
-/

namespace Gamebook.Report

open Gamebook.Story

namespace Counts

/-- The counts as a table under the title of the book. -/
def table (title : String) (tally : Tally) : List String :=
  ["Book Statistics",
   "---------------",
   "Title:        " ++ title,
   "Chapters:     " ++ tally.chapters.repr,
   "Sections:     " ++ tally.sections.repr,
   "Links:        " ++ tally.links.repr,
   "  Dangling:   " ++ tally.danglingLinks.repr,
   "",
   "Elements:",
   "  Paragraphs:     " ++ tally.elements.paragraphs.repr,
   "  State changes:  " ++ tally.elements.stateChanges.repr,
   "  Items added:    " ++ tally.elements.itemsAdded.repr,
   "  Items removed:  " ++ tally.elements.itemsRemoved.repr,
   "  Conditionals:   " ++ tally.elements.conditionals.repr,
   "  Else branches:  " ++ tally.elements.elseBranches.repr]

/-- The counts as one object. -/
def record (tally : Tally) : Json :=
  .obj [("chapters", .num tally.chapters),
    ("sections", .num tally.sections),
    ("links", .num tally.links),
    ("dangling_links", .num tally.danglingLinks),
    ("paragraphs", .num tally.elements.paragraphs),
    ("state_changes", .num tally.elements.stateChanges),
    ("items_added", .num tally.elements.itemsAdded),
    ("items_removed", .num tally.elements.itemsRemoved),
    ("conditionals", .num tally.elements.conditionals),
    ("else_branches", .num tally.elements.elseBranches)]

end Counts

end Gamebook.Report
