import Gamebook.Script.Line
import Gamebook.Story.Basic

/-!
# The outline of a book

The outline names the book, counts its chapters, and gives one entry to each
chapter and each section, with how much they hold.

Where a report gives one line to each part of a book, long texts are shown in
part.  A title is shown up to its first line end.  A paragraph is shown up to its
sixtieth character, with newlines written as a backslash and an n.
-/

namespace Gamebook.Report

open Gamebook.Script (LineReader)
open Gamebook.Story

/-! ## Excerpts -/

/-- The text up to its first line end. -/
def firstLine (text : String) : String :=
  match text.toList.dropWhile (· ≠ '\n') with
  | [] => text
  | _ :: _ => String.ofList (LineReader.dropReturn (text.toList.takeWhile (· ≠ '\n')))

/-- How many characters of a paragraph are shown. -/
def previewLength : Nat := 60

/-- The beginning of a text on one line, with dots if that is not all of it. -/
def preview (text : String) : String :=
  let shown := (text.toList.take previewLength).flatMap fun c =>
    if c = '\n' then ['\\', 'n'] else [c]
  String.ofList shown ++ (if previewLength < text.toList.length then "..." else "")

example : firstLine "One\r\nTwo" = "One" := by decide +kernel
example : firstLine "One\r" = "One\r" := by decide +kernel
example : preview "One\nTwo" = "One\\nTwo" := by decide +kernel

/-! ## Entries -/

namespace Outline

/-- The entry of a section. -/
def ofSection (here : Section) : String :=
  "    [" ++ here.id ++ "] " ++ firstLine here.title ++ " (" ++ here.elements.length.repr ++
    " elements, " ++ here.links.length.repr ++ " links)"

/-- The entry of a chapter and those of its sections. -/
def ofChapter (chapter : Chapter) : List String :=
  ("  [" ++ chapter.id ++ "] " ++ chapter.title ++ " (" ++ chapter.sections.length.repr ++
    " sections)") :: chapter.sections.map ofSection

/-- The outline of a book. -/
def ofBook (book : Book) : List String :=
  ("Book: " ++ book.title) :: ("Chapters: " ++ book.chapters.length.repr) ::
    book.chapters.flatMap ofChapter

end Outline

end Gamebook.Report
