import Gamebook.Story.Basic

/-!
# Looking up sections

An id stands for the first chapter or section that has it.  So a link is
resolved in two steps: the first chapter with its chapter id, and the first
section of that chapter with its section id.  A link that cannot be resolved
*dangles*.
-/

namespace Gamebook.Story

/-- The first section of the chapter with this id. -/
def Chapter.section? (chapter : Chapter) (id : String) : Option Section :=
  chapter.sections.find? (·.id = id)

/-- A link with the ids of the chapter and the section that declare it. -/
structure PlacedLink where
  /-- The id of the declaring chapter. -/
  chapterId : String
  /-- The id of the declaring section. -/
  sectionId : String
  /-- The link. -/
  link : Link
  deriving DecidableEq, Repr

namespace Book

/-- The first chapter with this id. -/
def chapter? (book : Book) (id : String) : Option Chapter :=
  book.chapters.find? (·.id = id)

/-- The first section with this id in the first chapter with that id. -/
def section? (book : Book) (chapterId sectionId : String) : Option Section :=
  (book.chapter? chapterId).bind (·.section? sectionId)

/-- The target of the link, if it exists. -/
def resolve? (book : Book) (link : Link) : Option Section :=
  book.section? link.chapterId link.sectionId

/-- Every section with the chapter it belongs to, in order. -/
def sections (book : Book) : List (Chapter × Section) :=
  book.chapters.flatMap fun chapter => chapter.sections.map (chapter, ·)

/-- Every link with the place that declares it, in order. -/
def links (book : Book) : List PlacedLink :=
  book.sections.flatMap fun (chapter, here) => here.links.map (⟨chapter.id, here.id, ·⟩)

/-- The links without a target, in order. -/
def danglingLinks (book : Book) : List PlacedLink :=
  book.links.filter fun placed => (book.resolve? placed.link).isNone

end Book

end Gamebook.Story
