import Gamebook.Story.Lookup

/-!
# Counting a book

The tally of a book is how many chapters, sections and links it has, how many of
the links dangle, and how many elements of each kind it has at any depth.  A
branch counts once, and what its body holds counts besides.
-/

namespace Gamebook.Story

/-! ## Elements by kind -/

/-- How many elements there are of each kind. -/
structure ElementTally where
  /-- Pieces of narrative text. -/
  paragraphs : Nat
  /-- Changes of state. -/
  stateChanges : Nat
  /-- Items gained. -/
  itemsAdded : Nat
  /-- Items lost. -/
  itemsRemoved : Nat
  /-- Branches told when their condition holds. -/
  conditionals : Nat
  /-- Branches told when it does not hold. -/
  elseBranches : Nat
  deriving DecidableEq, Repr

namespace ElementTally

/-- Nothing counted. -/
def zero : ElementTally := ⟨0, 0, 0, 0, 0, 0⟩

/-- Two counts together. -/
def add (first second : ElementTally) : ElementTally where
  paragraphs := first.paragraphs + second.paragraphs
  stateChanges := first.stateChanges + second.stateChanges
  itemsAdded := first.itemsAdded + second.itemsAdded
  itemsRemoved := first.itemsRemoved + second.itemsRemoved
  conditionals := first.conditionals + second.conditionals
  elseBranches := first.elseBranches + second.elseBranches

instance : Zero ElementTally := ⟨zero⟩

instance : Add ElementTally := ⟨add⟩

/-- One leaf. -/
def ofLeaf : Leaf → ElementTally
  | .paragraph _ => { zero with paragraphs := 1 }
  | .state _ _ => { zero with stateChanges := 1 }
  | .addItem _ => { zero with itemsAdded := 1 }
  | .removeItem _ => { zero with itemsRemoved := 1 }

/-- One branch, without its body. -/
def ofBranch : BranchKind → ElementTally
  | .ifBranch => { zero with conditionals := 1 }
  | .elseBranch => { zero with elseBranches := 1 }

mutual

/-- An element with everything in it. -/
def ofElement : Element → ElementTally
  | .leaf leaf => ofLeaf leaf
  | .branch kind _ body => ofBranch kind + ofElements body

/-- Elements with everything in them. -/
def ofElements : List Element → ElementTally
  | [] => 0
  | element :: rest => ofElement element + ofElements rest

end

end ElementTally

/-! ## Books -/

/-- How much of everything a book has. -/
structure Tally where
  /-- Chapters. -/
  chapters : Nat
  /-- Sections of all chapters. -/
  sections : Nat
  /-- Links of all sections. -/
  links : Nat
  /-- Links without a target. -/
  danglingLinks : Nat
  /-- Elements of all sections, at any depth. -/
  elements : ElementTally
  deriving DecidableEq, Repr

/-- The tally of a book. -/
def Book.tally (book : Book) : Tally where
  chapters := book.chapters.length
  sections := book.sections.length
  links := book.links.length
  danglingLinks := book.danglingLinks.length
  elements := ElementTally.ofElements (book.sections.flatMap fun (_, here) => here.elements)

end Gamebook.Story
