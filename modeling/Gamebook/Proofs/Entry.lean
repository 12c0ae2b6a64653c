import Gamebook.Story.Basic

/-!
# What a script adds to a book

An *entry* is one thing that a script adds to the book: a chapter, a section, a
leaf, a link, or the opening or closing of a branch.  A sequence of entries
determines the book.  Where an entry goes follows from the entries before it.

* A section goes to the last chapter.
* A link or a branch goes to the last section.
* A leaf goes to the body of the open branch, or to the last section if no
  branch is open.  A branch stays open until it is closed or another one is
  opened, also across chapters and sections.

`Growth.ofEntries` reads the entries from the right.  It sorts what they add by
where it goes: the body that is open at the start, the section at the start, the
chapter at the start, and the book.  So whatever stands before them is not
needed.
-/

namespace Gamebook.Script

open Gamebook.Story

/-- One addition to a book. -/
inductive Entry where
  /-- A chapter begins. -/
  | newChapter (id title : String)
  /-- A section begins. -/
  | newSection (id title : String)
  /-- An element without a body. -/
  | leaf (leaf : Leaf)
  /-- A link. -/
  | link (link : Link)
  /-- A branch begins. -/
  | openBranch (kind : BranchKind) (condition : String)
  /-- The open branch ends. -/
  | closeBranch
  deriving DecidableEq, Repr

/-- What entries add to the book before them, sorted by where it goes. -/
@[ext] structure Growth where
  /-- To the branch that is open there. -/
  body : List Leaf
  /-- To the elements of the last section. -/
  elements : List Element
  /-- To the links of the last section. -/
  links : List Link
  /-- To the last chapter. -/
  sections : List Section
  /-- To the book. -/
  chapters : List Chapter
  deriving DecidableEq, Repr

namespace Growth

/-- No addition. -/
def none : Growth := ⟨[], [], [], [], []⟩

/-- What the entries add, where a branch may be open at the start. -/
def ofEntries (inBranch : Bool) : List Entry → Growth
  | [] => none
  | .leaf leaf :: rest =>
    let later := ofEntries inBranch rest
    if inBranch then { later with body := leaf :: later.body }
    else { later with elements := .leaf leaf :: later.elements }
  | .link link :: rest =>
    let later := ofEntries inBranch rest
    { later with links := link :: later.links }
  | .openBranch kind condition :: rest =>
    let later := ofEntries true rest
    { later with
      body := []
      elements := .branch kind condition (later.body.map .leaf) :: later.elements }
  | .closeBranch :: rest => { ofEntries false rest with body := [] }
  | .newSection id title :: rest =>
    let later := ofEntries inBranch rest
    { later with
      elements := []
      links := []
      sections := ⟨id, title, later.elements, later.links⟩ :: later.sections }
  | .newChapter id title :: rest =>
    let later := ofEntries inBranch rest
    { later with
      elements := []
      links := []
      sections := []
      chapters := ⟨id, title, later.sections⟩ :: later.chapters }

end Growth

/-- The book with this title and these entries. -/
def bookOfEntries (title : String) (entries : List Entry) : Book :=
  ⟨title, (Growth.ofEntries false entries).chapters⟩

example :
    bookOfEntries "T" [.newChapter "c" "C", .newSection "s" "S", .openBranch .ifBranch "x",
      .leaf (.addItem "key"), .closeBranch, .leaf (.removeItem "key")] =
    ⟨"T", [⟨"c", "C", [⟨"s", "S",
      [.branch .ifBranch "x" [.leaf (.addItem "key")], .leaf (.removeItem "key")], []⟩]⟩]⟩ := by
  decide

end Gamebook.Script
