import Gamebook.Script.Directive
import Gamebook.Script.Fault
import Gamebook.Script.Token
import Gamebook.Story.Place

/-!
# A book under construction

Parsing goes through the tokens once, from left to right.  A *state* is what it
has between two tokens: the book so far, and pointers into it.  The pointers are
the index of the current chapter, the index of the current section in that
chapter, and the places of the open branch and of its alternative.  Besides
there are the directive that opened the branch, and the heading that still waits
for its title.

Everything that is added goes to where a pointer points.  An addition gives
nothing if the pointer is missing or points nowhere.

A heading and its title are two tokens but one step.  The position stays at the
heading until the title has come, so a failure is always reported at the
position of the state.
-/

namespace Gamebook.Script

open Gamebook.Story

/-- How open branches are treated. -/
inductive Mode where
  /-- Branches end with their section. -/
  | strict
  /-- Branches may go on across sections. -/
  | lenient
  deriving DecidableEq, Repr

/-! ## Headings -/

/-- What a heading opens once its title is known. -/
inductive Heading where
  /-- The book. -/
  | ofBook
  /-- A chapter with its id. -/
  | ofChapter (id : String)
  /-- A section with its id. -/
  | ofSection (id : String)
  deriving DecidableEq, Repr

/-- The keyword of the heading. -/
def Heading.keyword : Heading → Keyword
  | .ofBook => .openBook
  | .ofChapter _ => .openChapter
  | .ofSection _ => .openSection

/-- A heading that waits for its title. -/
structure Pending where
  /-- What it opens. -/
  heading : Heading
  /-- The directive of the heading. -/
  token : Token
  deriving DecidableEq, Repr

/-! ## States -/

/-- What parsing has between two tokens. -/
structure State where
  /-- How many tokens are done with.  A heading is not before its title. -/
  position : Nat
  /-- The book so far, if it has begun. -/
  book : Option Book
  /-- The index of the current chapter. -/
  chapterAt : Option Nat
  /-- The index of the current section in the current chapter. -/
  sectionAt : Option Nat
  /-- The place of the open branch. -/
  openIf : Option Place
  /-- The place of the alternative of the open branch. -/
  openElse : Option Place
  /-- The directive that opened the branch. -/
  opener : Option Token
  /-- The heading without a title. -/
  pending : Option Pending
  deriving DecidableEq, Repr

namespace State

/-- The state before the first token. -/
def initial : State := ⟨0, none, none, none, none, none, none, none⟩

/-- One more token is done with. -/
def advance (state : State) : State := { state with position := state.position + 1 }

/-- The heading is read and its title is to come. -/
def await (state : State) (heading : Heading) (token : Token) : State :=
  { state with pending := some ⟨heading, token⟩ }

/-! ## What the pointers point at -/

/-- The current chapter. -/
def chapter? (state : State) : Option Chapter := do
  let book ← state.book
  let chapterAt ← state.chapterAt
  book.chapters[chapterAt]?

/-- The current section. -/
def section? (state : State) : Option Section := do
  let chapter ← state.chapter?
  let sectionAt ← state.sectionAt
  chapter.sections[sectionAt]?

/-- The condition of the open branch. -/
def openCondition? (state : State) : Option String := do
  let place ← state.openIf
  let book ← state.book
  match book.elementAt? place with
  | some (.branch .ifBranch condition _) => some condition
  | _ => none

/-- The innermost open branch: the alternative, or else the branch itself. -/
def innermost? (state : State) : Option Place := state.openElse <|> state.openIf

/-- There is something that elements can go to. -/
def hasContainer (state : State) : Bool := state.innermost?.isSome || state.section?.isSome

/-- The place in the book, by ids. -/
def scope (state : State) : Scope :=
  ⟨state.chapter?.map (·.id), state.section?.map (·.id), state.openCondition?⟩

/-! ## Additions -/

/-- A new chapter at the end of the book becomes the current one.  It has no
current section. -/
def pushChapter? (state : State) (chapter : Chapter) : Option State := do
  let book ← state.book
  let book := book.addChapter chapter
  return { state with
    book := some book
    chapterAt := some (book.chapters.length - 1)
    sectionAt := none }

/-- A new section at the end of the current chapter becomes the current one. -/
def pushSection? (state : State) (here : Section) : Option State := do
  let chapterAt ← state.chapterAt
  let book ← state.book
  let chapter ← book.chapters[chapterAt]?
  let chapter := chapter.addSection here
  return { state with
    book := some (book.modifyChapter chapterAt fun _ => chapter)
    sectionAt := some (chapter.sections.length - 1) }

/-- A new element at the end of the section at this address, with its place. -/
def pushBranch? (state : State) (chapterAt sectionAt : Nat) (element : Element) :
    Option (State × Place) := do
  let book ← state.book
  let here ← book.sectionAt? chapterAt sectionAt
  let here := here.addElement element
  return ({ state with book := some (book.modifySection chapterAt sectionAt fun _ => here) },
    ⟨chapterAt, sectionAt, here.elements.length - 1⟩)

/-- The current section after a change. -/
def modifySection? (state : State) (change : Section → Section) : Option State := do
  let sectionAt ← state.sectionAt
  let chapterAt ← state.chapterAt
  let book ← state.book
  let _ ← book.sectionAt? chapterAt sectionAt
  return { state with book := some (book.modifySection chapterAt sectionAt change) }

/-- A new element in the innermost open branch, or else in the current section. -/
def pushElement? (state : State) (element : Element) : Option State :=
  match state.innermost? with
  | some place => do
    let book ← state.book
    let branch ← book.elementAt? place
    let branch ← branch.append? element
    return { state with book := some (book.modifyElement place fun _ => branch) }
  | none => state.modifySection? (·.addElement element)

/-- A new link in the current section. -/
def pushLink? (state : State) (link : Link) : Option State :=
  state.modifySection? (·.addLink link)

/-! ## Openings -/

/-- The heading has its title, and both tokens are done with.  Where the chapter
or section has nowhere to go, it is left out. -/
def entitle (state : State) (heading : Heading) (title : String) : State :=
  let state := { state with position := state.position + 2, pending := none }
  match heading with
  | .ofBook => { state with book := some ⟨title, []⟩ }
  | .ofChapter id => (state.pushChapter? ⟨id, title, []⟩).getD state
  | .ofSection id => (state.pushSection? ⟨id, title, [], []⟩).getD state

/-- A branch begins in the section at this address.  Where it has nowhere to go,
no branch is open. -/
def beginIf (state : State) (chapterAt sectionAt : Nat) (condition : String) (token : Token) :
    State :=
  match state.pushBranch? chapterAt sectionAt (.branch .ifBranch condition []) with
  | some (state, place) => { state with openIf := some place, opener := some token }
  | none => { state with openIf := none, opener := some token }

/-- An alternative begins in the section at this address.  Where it has nowhere
to go, no alternative is open. -/
def beginElse (state : State) (chapterAt sectionAt : Nat) (condition : String) : State :=
  match state.pushBranch? chapterAt sectionAt (.branch .elseBranch condition []) with
  | some (state, place) => { state with openElse := some place }
  | none => { state with openElse := none }

/-- The open branch ends. -/
def endIf (state : State) : State :=
  { state with openIf := none, openElse := none, opener := none }

end State

end Gamebook.Script
