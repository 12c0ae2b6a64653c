import Gamebook.Proofs.Entry
import Gamebook.Proofs.Places

/-!
# Growing a book in place

`Growth.ofEntries` sorts what entries add by where it goes.  `Book.receive` puts
it there: into the innermost open branch, the current section, the current
chapter and the book, each by its address.

The laws below have one form.  To add something at its address, and to let the
book receive a growth at the addresses that are current then, is to let it
receive the growth with that addition in front.  They hold wherever the open
branch is, as long as it is somewhere in the book.
-/

namespace Gamebook.Story

open Gamebook.Script (Growth)

/-- The element with more leaves in its body, if it is a branch. -/
def Element.extend (leaves : List Leaf) : Element → Element
  | .leaf plain => .leaf plain
  | .branch kind condition body => .branch kind condition (body ++ leaves.map .leaf)

/-- The section with more elements and links. -/
def Section.extend (elements : List Element) (links : List Link) (here : Section) : Section :=
  { here with elements := here.elements ++ elements, links := here.links ++ links }

/-- The chapter with more sections. -/
def Chapter.extend (sections : List Section) (chapter : Chapter) : Chapter :=
  { chapter with sections := chapter.sections ++ sections }

/-- Leaves are added one after the other or all at once. -/
theorem Element.extend_cons (leaf : Leaf) (leaves : List Leaf) (element : Element) :
    Element.extend leaves (Element.extend [leaf] element) =
      Element.extend (leaf :: leaves) element := by
  cases element <;> simp [extend]

namespace Book

variable {book : Book} {innermost : Option Place} {chapterAt : Nat} {growth : Growth}

@[simp] theorem elementExtend_nil : Element.extend [] = id := by
  funext element
  cases element <;> simp [Element.extend]

@[simp] theorem sectionExtend_nil : Section.extend [] [] = id := by
  funext here
  simp [Section.extend]

@[simp] theorem chapterExtend_nil : Chapter.extend [] = id := by
  funext chapter
  simp [Chapter.extend]

@[simp] theorem modifyChapter_id (chapterAt : Nat) : book.modifyChapter chapterAt id = book := by
  simp [modifyChapter]

@[simp] theorem modifySection_id (chapterAt sectionAt : Nat) :
    book.modifySection chapterAt sectionAt id = book := by
  have same (chapter : Chapter) :
      { chapter with sections := chapter.sections.modify sectionAt id } = id chapter := by simp
  rw [modifySection, funext same, modifyChapter_id]

@[simp] theorem modifyElement_id (place : Place) : book.modifyElement place id = book := by
  have same (here : Section) :
      { here with elements := here.elements.modify place.elementAt id } = id here := by simp
  rw [modifyElement, funext same, modifySection_id]

/-! ## Receiving -/

/-- The leaves go to the branch at this place, if there is one. -/
def receiveBody (book : Book) (innermost : Option Place) (leaves : List Leaf) : Book :=
  match innermost with
  | none => book
  | some place => book.modifyElement place (.extend leaves)

/-- The elements and links go to the section at this address, if there is one. -/
def receiveParts (book : Book) (chapterAt sectionAt : Option Nat) (elements : List Element)
    (links : List Link) : Book :=
  match chapterAt, sectionAt with
  | some chapterAt, some sectionAt =>
    book.modifySection chapterAt sectionAt (.extend elements links)
  | _, _ => book

/-- The sections go to the chapter at this index, if there is one. -/
def receiveSections (book : Book) (chapterAt : Option Nat) (sections : List Section) : Book :=
  match chapterAt with
  | none => book
  | some chapterAt => book.modifyChapter chapterAt (.extend sections)

/-- The book with a growth, where these are the innermost open branch, the
current chapter and the current section. -/
def receive (book : Book) (innermost : Option Place) (chapterAt sectionAt : Option Nat)
    (growth : Growth) : Book :=
  let grown := ((book.receiveBody innermost growth.body).receiveParts chapterAt sectionAt
    growth.elements growth.links).receiveSections chapterAt growth.sections
  { grown with chapters := grown.chapters ++ growth.chapters }

/-- The branch at this place, if it is one, is in the book. -/
def Holds (book : Book) (innermost : Option Place) : Prop :=
  ∀ place, innermost = some place → (book.sectionAt? place.chapterAt place.sectionAt).isSome

/-! ## One more in front -/

/-- To receive nothing changes nothing. -/
theorem receive_none {chapterAt sectionAt : Option Nat} :
    book.receive innermost chapterAt sectionAt .none = book := by
  cases innermost <;> cases chapterAt <;> cases sectionAt <;>
    simp [receive, receiveBody, receiveParts, receiveSections, Growth.none]

/-- A leaf that is in the branch already is received with those that come later,
in front of them. -/
theorem receive_leaf_of_branch {place : Place} {chapterAt sectionAt : Option Nat} (leaf : Leaf) :
    (book.modifyElement place (.extend [leaf])).receive (some place) chapterAt sectionAt growth =
      book.receive (some place) chapterAt sectionAt
        { growth with body := leaf :: growth.body } := by
  have fused : (book.modifyElement place (.extend [leaf])).modifyElement place
      (.extend growth.body) = book.modifyElement place (.extend (leaf :: growth.body)) := by
    rw [modifyElement_modifyElement]
    exact modifyElement_congr fun element _ => Element.extend_cons leaf growth.body element
  simp only [receive, receiveBody, fused]

/-- So is an element of the section, where no branch is open. -/
theorem receive_element {sectionAt : Nat} (element : Element) :
    (book.modifySection chapterAt sectionAt (·.addElement element)).receive none
        (some chapterAt) (some sectionAt) growth =
      book.receive none (some chapterAt) (some sectionAt)
        { growth with elements := element :: growth.elements } := by
  have fused : (book.modifySection chapterAt sectionAt (·.addElement element)).modifySection
      chapterAt sectionAt (.extend growth.elements growth.links) =
      book.modifySection chapterAt sectionAt
        (.extend (element :: growth.elements) growth.links) := by
    rw [modifySection_modifySection]
    exact modifySection_congr fun here _ => by simp [Section.extend, Section.addElement]
  simp only [receive, receiveBody, receiveParts, fused]

/-- What goes to the body of a branch and what goes to the links of a section do
not meet. -/
theorem receiveBody_addLink {sectionAt : Nat} (link : Link) (leaves : List Leaf) :
    (book.modifySection chapterAt sectionAt (·.addLink link)).receiveBody innermost leaves =
      (book.receiveBody innermost leaves).modifySection chapterAt sectionAt (·.addLink link) := by
  cases innermost with
  | none => rfl
  | some place => exact modifySection_comm _ _ _ _ fun here => by simp [Section.addLink]

/-- So is a link, whether or not a branch is open: links go past it to the section. -/
theorem receive_link {sectionAt : Nat} (link : Link) :
    (book.modifySection chapterAt sectionAt (·.addLink link)).receive innermost
        (some chapterAt) (some sectionAt) growth =
      book.receive innermost (some chapterAt) (some sectionAt)
        { growth with links := link :: growth.links } := by
  have fused (old : Book) : (old.modifySection chapterAt sectionAt (·.addLink link)).modifySection
      chapterAt sectionAt (.extend growth.elements growth.links) =
      old.modifySection chapterAt sectionAt
        (.extend growth.elements (link :: growth.links)) := by
    rw [modifySection_modifySection]
    exact modifySection_congr fun here _ => by simp [Section.extend, Section.addLink]
  simp only [receive, receiveBody_addLink, receiveParts, fused]

/-- A branch that begins gets its body later, and what comes after it stands
behind it. -/
theorem receive_branch {sectionAt : Nat} {here : Section} (kind : BranchKind)
    (condition : String) (found : book.sectionAt? chapterAt sectionAt = some here) :
    (book.modifySection chapterAt sectionAt
        (·.addElement (.branch kind condition []))).receive
          (some ⟨chapterAt, sectionAt, here.elements.length⟩) (some chapterAt) (some sectionAt)
          growth =
      book.receive innermost (some chapterAt) (some sectionAt)
        { growth with
          body := []
          elements := .branch kind condition (growth.body.map .leaf) :: growth.elements } := by
  have filled : (book.modifySection chapterAt sectionAt
      (·.addElement (.branch kind condition []))).modifyElement
        ⟨chapterAt, sectionAt, here.elements.length⟩ (.extend growth.body) =
      book.modifySection chapterAt sectionAt
        (·.addElement (.branch kind condition (growth.body.map .leaf))) := by
    simp only [modifyElement, modifySection_modifySection]
    refine modifySection_congr ?_
    intro other otherFound
    obtain rfl := Option.some.inj (otherFound.symm.trans found)
    simp [Section.addElement, modify_append_singleton, Element.extend]
  have fused : (book.modifySection chapterAt sectionAt
      (·.addElement (.branch kind condition (growth.body.map .leaf)))).modifySection
        chapterAt sectionAt (.extend growth.elements growth.links) =
      book.modifySection chapterAt sectionAt
        (.extend (.branch kind condition (growth.body.map .leaf) :: growth.elements)
          growth.links) := by
    rw [modifySection_modifySection]
    exact modifySection_congr fun other _ => by simp [Section.extend, Section.addElement]
  have unchanged : book.receiveBody innermost [] = book := by
    cases innermost <;> simp [receiveBody]
  simp only [receive, unchanged]
  simp only [receiveBody, receiveParts, filled, fused]

/-- To receive outside of branches is to receive nothing in the branch. -/
theorem receive_close {chapterAt sectionAt : Option Nat} :
    book.receive none chapterAt sectionAt growth =
      book.receive innermost chapterAt sectionAt { growth with body := [] } := by
  cases innermost <;> simp [receive, receiveBody]

/-- A new section does not move the branch that leaves are still received in. -/
theorem receiveBody_addSection (added : Section) (leaves : List Leaf)
    (holds : book.Holds innermost) :
    (book.modifyChapter chapterAt (·.addSection added)).receiveBody innermost leaves =
      (book.receiveBody innermost leaves).modifyChapter chapterAt (·.addSection added) := by
  cases innermost with
  | none => rfl
  | some place => exact modifySection_addSection added (holds place rfl)

/-- A new chapter does not move it either. -/
theorem receiveBody_addChapter (added : Chapter) (leaves : List Leaf)
    (holds : book.Holds innermost) :
    (book.addChapter added).receiveBody innermost leaves =
      (book.receiveBody innermost leaves).addChapter added := by
  cases innermost with
  | none => rfl
  | some place => exact modifySection_addChapter added (holds place rfl)

theorem length_chapters_receiveBody (book : Book) (innermost : Option Place)
    (leaves : List Leaf) :
    (book.receiveBody innermost leaves).chapters.length = book.chapters.length := by
  cases innermost <;> simp [receiveBody, modifyElement, modifySection, modifyChapter]

/-- Leaves in a branch leave the chapters where they are, with as many sections. -/
theorem getElem?_receiveBody {chapter : Chapter} (innermost : Option Place) (leaves : List Leaf)
    (found : book.chapters[chapterAt]? = some chapter) :
    ∃ other, (book.receiveBody innermost leaves).chapters[chapterAt]? = some other ∧
      other.sections.length = chapter.sections.length := by
  cases innermost with
  | none => exact ⟨chapter, found, rfl⟩
  | some place =>
    simp only [receiveBody, modifyElement, modifySection, getElem?_modifyChapter, found,
      Option.map_some, Option.some.injEq, exists_eq_left']
    split <;> simp

/-- What a section receives after it was added, it can be received with, in
front of later sections. -/
theorem receive_section {chapter : Chapter} (sectionAt : Option Nat) (id title : String)
    (holds : book.Holds innermost) (found : book.chapters[chapterAt]? = some chapter) :
    (book.modifyChapter chapterAt (·.addSection ⟨id, title, [], []⟩)).receive innermost
        (some chapterAt) (some chapter.sections.length) growth =
      book.receive innermost (some chapterAt) sectionAt
        { growth with
          elements := []
          links := []
          sections := ⟨id, title, growth.elements, growth.links⟩ :: growth.sections } := by
  -- Leaves go to the branch first, and the chapter is as long as before, so that the new section
  -- is still the one at its end.
  obtain ⟨other, otherFound, sameLength⟩ := getElem?_receiveBody innermost growth.body found
  have filled := modifySection_addSection_new (.extend growth.elements growth.links)
    ⟨id, title, [], []⟩ otherFound
  have fused (old : Book) : (old.modifyChapter chapterAt
      (·.addSection ⟨id, title, growth.elements, growth.links⟩)).modifyChapter chapterAt
        (.extend growth.sections) =
      old.modifyChapter chapterAt
        (.extend (⟨id, title, growth.elements, growth.links⟩ :: growth.sections)) := by
    rw [modifyChapter_modifyChapter]
    exact modifyChapter_congr fun chapter _ => by simp [Chapter.extend, Chapter.addSection]
  have unchanged (old : Book) : old.receiveParts (some chapterAt) sectionAt [] [] = old := by
    cases sectionAt <;> simp [receiveParts]
  simp only [receive, receiveBody_addSection _ _ holds, unchanged]
  simp only [receiveParts, ← sameLength, filled, receiveSections]
  simp only [Section.extend, List.nil_append, fused]

/-- What a chapter receives after it was added, it can be received with, in
front of later chapters. -/
theorem receive_chapter (chapterAt sectionAt : Option Nat) (id title : String)
    (holds : book.Holds innermost) :
    (book.addChapter ⟨id, title, []⟩).receive innermost (some book.chapters.length) none growth =
      book.receive innermost chapterAt sectionAt
        { growth with
          elements := []
          links := []
          sections := []
          chapters := ⟨id, title, growth.sections⟩ :: growth.chapters } := by
  have unchanged (old : Book) :
      (old.receiveParts chapterAt sectionAt [] []).receiveSections chapterAt [] = old := by
    cases chapterAt <;> cases sectionAt <;> simp [receiveParts, receiveSections]
  have sameLength := book.length_chapters_receiveBody innermost growth.body
  simp only [receive, receiveBody_addChapter _ _ holds, unchanged]
  simp only [receiveParts, receiveSections, ← sameLength, modifyChapter_addChapter_new]
  simp [addChapter, Chapter.extend]

end Book

end Gamebook.Story
