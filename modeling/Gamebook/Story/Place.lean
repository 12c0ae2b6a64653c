import Gamebook.Story.Basic

/-!
# Places in a book

A book that grows is addressed by indices, counted from zero: a chapter by its
index in the book, a section by its index in its chapter, an element by its
index in its section.  A *place* is the address of an element.  An address stays
good while more is added behind what it points at.

What is at an address can be looked up and changed.  A change at an address that
does not exist changes nothing.
-/

namespace Gamebook.Story

/-- The address of an element of a section. -/
structure Place where
  /-- The index of the chapter. -/
  chapterAt : Nat
  /-- The index of the section in the chapter. -/
  sectionAt : Nat
  /-- The index of the element in the section. -/
  elementAt : Nat
  deriving DecidableEq, Repr

/-! ## Adding at the end -/

/-- The element with one more in its body, if it is a branch. -/
def Element.append? : Element → Element → Option Element
  | .leaf _, _ => none
  | .branch kind condition body, added => some (.branch kind condition (body ++ [added]))

/-- The section with one more element. -/
def Section.addElement (here : Section) (added : Element) : Section :=
  { here with elements := here.elements ++ [added] }

/-- The section with one more link. -/
def Section.addLink (here : Section) (added : Link) : Section :=
  { here with links := here.links ++ [added] }

/-- The chapter with one more section. -/
def Chapter.addSection (chapter : Chapter) (added : Section) : Chapter :=
  { chapter with sections := chapter.sections ++ [added] }

/-- The book with one more chapter. -/
def Book.addChapter (book : Book) (added : Chapter) : Book :=
  { book with chapters := book.chapters ++ [added] }

namespace Book

/-! ## Looking up -/

/-- The section at this address. -/
def sectionAt? (book : Book) (chapterAt sectionAt : Nat) : Option Section :=
  book.chapters[chapterAt]?.bind (·.sections[sectionAt]?)

/-- The element at this place. -/
def elementAt? (book : Book) (place : Place) : Option Element :=
  (book.sectionAt? place.chapterAt place.sectionAt).bind (·.elements[place.elementAt]?)

/-! ## Changing -/

/-- Changes the chapter at this index. -/
def modifyChapter (book : Book) (chapterAt : Nat) (change : Chapter → Chapter) : Book :=
  { book with chapters := book.chapters.modify chapterAt change }

/-- Changes the section at this address. -/
def modifySection (book : Book) (chapterAt sectionAt : Nat) (change : Section → Section) :
    Book :=
  book.modifyChapter chapterAt fun chapter =>
    { chapter with sections := chapter.sections.modify sectionAt change }

/-- Changes the element at this place. -/
def modifyElement (book : Book) (place : Place) (change : Element → Element) : Book :=
  book.modifySection place.chapterAt place.sectionAt fun here =>
    { here with elements := here.elements.modify place.elementAt change }

end Book

end Gamebook.Story
