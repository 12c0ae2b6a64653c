import Gamebook.Report.Outline

/-!
# The tree of a book

The tree shows a book in full.  Each element has a line, and the elements of a
branch stand below it, two spaces further in.  The links of a section follow its
elements.
-/

namespace Gamebook.Report

open Gamebook.Story

namespace Tree

/-- Two spaces for each level. -/
def indent (level : Nat) : String := String.ofList (List.replicate (2 * level) ' ')

/-- The line of a leaf. -/
def ofLeaf : Leaf → String
  | .paragraph text => "Text: " ++ preview text
  | .state id modifier => "State: " ++ id ++ " " ++ modifier
  | .addItem id => "Item: +" ++ id
  | .removeItem id => "Item: -" ++ id

/-- The line of a branch. -/
def ofBranch (kind : BranchKind) (condition : String) : String :=
  match kind with
  | .ifBranch => "If: " ++ condition
  | .elseBranch => "Else (of: " ++ condition ++ ")"

mutual

/-- The lines of an element at this level. -/
def ofElement (level : Nat) : Element → List String
  | .leaf leaf => [indent level ++ ofLeaf leaf]
  | .branch kind condition body =>
    (indent level ++ ofBranch kind condition) :: ofElements (level + 1) body

/-- The lines of elements at this level. -/
def ofElements (level : Nat) : List Element → List String
  | [] => []
  | element :: rest => ofElement level element ++ ofElements level rest

end

/-- The line of a link. -/
def ofLink (link : Link) : String :=
  "    -> " ++ link.chapterId ++ "/" ++ link.sectionId ++ " \"" ++ link.title ++ "\""

/-- The lines of a section. -/
def ofSection (here : Section) : List String :=
  "" :: ("  Section " ++ here.id ++ ": " ++ firstLine here.title) ::
    (ofElements 2 here.elements ++ here.links.map ofLink)

/-- The lines of a chapter. -/
def ofChapter (chapter : Chapter) : List String :=
  "" :: ("--- Chapter " ++ chapter.id ++ ": " ++ chapter.title ++ " ---") ::
    chapter.sections.flatMap ofSection

/-- The tree of a book. -/
def ofBook (book : Book) : List String :=
  "=== Storyline Book ===" :: "" :: ("Title: " ++ book.title) :: book.chapters.flatMap ofChapter

end Tree

end Gamebook.Report
