import Gamebook.Json
import Gamebook.Story.Basic

/-!
# Books as JSON

A book as a JSON value has every text of the book.  Each element says what it is
in its first field, and the fields after it depend on that.
-/

namespace Gamebook.Report

open Gamebook.Story

namespace Record

/-- A leaf with its type. -/
def ofLeaf : Leaf → Json
  | .paragraph text => .obj [("type", .str "paragraph"), ("text", .str text)]
  | .state id modifier =>
    .obj [("type", .str "state"), ("id", .str id), ("modifier", .str modifier)]
  | .addItem id => .obj [("type", .str "addItem"), ("id", .str id)]
  | .removeItem id => .obj [("type", .str "removeItem"), ("id", .str id)]

/-- The type of a branch. -/
def branchType : BranchKind → String
  | .ifBranch => "if"
  | .elseBranch => "else"

/-- The name of the field that has the condition of a branch. -/
def conditionKey : BranchKind → String
  | .ifBranch => "condition"
  | .elseBranch => "ifCondition"

mutual

/-- An element with its type. -/
def ofElement : Element → Json
  | .leaf leaf => ofLeaf leaf
  | .branch kind condition body =>
    .obj [("type", .str (branchType kind)), (conditionKey kind, .str condition),
      ("elements", .arr (ofElements body))]

/-- Elements in order. -/
def ofElements : List Element → List Json
  | [] => []
  | element :: rest => ofElement element :: ofElements rest

end

/-- A link. -/
def ofLink (link : Link) : Json :=
  .obj [("title", .str link.title), ("chapterId", .str link.chapterId),
    ("sectionId", .str link.sectionId)]

/-- A section. -/
def ofSection (here : Section) : Json :=
  .obj [("id", .str here.id), ("title", .str here.title),
    ("elements", .arr (ofElements here.elements)), ("next", .arr (here.links.map ofLink))]

/-- A chapter. -/
def ofChapter (chapter : Chapter) : Json :=
  .obj [("id", .str chapter.id), ("title", .str chapter.title),
    ("sections", .arr (chapter.sections.map ofSection))]

/-- A book. -/
def ofBook (book : Book) : Json :=
  .obj [("title", .str book.title), ("chapters", .arr (book.chapters.map ofChapter))]

end Record

end Gamebook.Report
