/-!
# Books

A book has chapters, a chapter has sections, and a section has elements and
links.  An element is a *leaf* or a *branch*.  A leaf is narrative text or one
change of the reader's state or possessions.  A branch is a conditional part
with a body of its own.

Ids are free text and may repeat.  A link names its target by ids, and the
target need not exist.

The type of elements allows any nesting.  What a script can express is one
level of it: the body of a branch holds leaves.
-/

namespace Gamebook.Story

/-! ## Elements -/

/-- An element without a body. -/
inductive Leaf where
  /-- Narrative text. -/
  | paragraph (text : String)
  /-- A change of state.  What the modifier means is up to the player program. -/
  | state (id modifier : String)
  /-- An item gained. -/
  | addItem (id : String)
  /-- An item lost. -/
  | removeItem (id : String)
  deriving DecidableEq, Repr

/-- The two kinds of conditional part. -/
inductive BranchKind where
  /-- The part that is told when the condition holds. -/
  | ifBranch
  /-- The part that is told when the condition does not hold. -/
  | elseBranch
  deriving DecidableEq, Repr

/-- A piece of a section, in the order of presentation. -/
inductive Element where
  /-- An element without a body. -/
  | leaf (leaf : Leaf)
  /-- A conditional part.  The condition of an alternative is that of the
  branch it belongs to. -/
  | branch (kind : BranchKind) (condition : String) (body : List Element)
  deriving Repr

namespace Element

mutual

/-- Equality of elements is decided by comparing them part by part. -/
def decEq : (first second : Element) → Decidable (first = second)
  | .leaf a, .leaf b =>
    if same : a = b then .isTrue (by rw [same]) else .isFalse (by simp [same])
  | .leaf _, .branch _ _ _ => .isFalse nofun
  | .branch _ _ _, .leaf _ => .isFalse nofun
  | .branch kind condition body, .branch kind' condition' body' =>
    if same : kind = kind' ∧ condition = condition' then
      match decEqList body body' with
      | .isTrue bodies => .isTrue (by rw [same.1, same.2, bodies])
      | .isFalse bodies => .isFalse (by simp [bodies])
    else .isFalse (by simp; intro kinds conditions; exact absurd ⟨kinds, conditions⟩ same)

/-- Equality of bodies is decided element by element. -/
def decEqList : (first second : List Element) → Decidable (first = second)
  | [], [] => .isTrue rfl
  | [], _ :: _ => .isFalse nofun
  | _ :: _, [] => .isFalse nofun
  | a :: rest, b :: rest' =>
    match decEq a b with
    | .isFalse heads => .isFalse (by simp [heads])
    | .isTrue heads =>
      match decEqList rest rest' with
      | .isTrue tails => .isTrue (by rw [heads, tails])
      | .isFalse tails => .isFalse (by simp [tails])

end

instance : DecidableEq Element := decEq

/-- The name of the kind of element. -/
def name : Element → String
  | .leaf (.paragraph _) => "paragraph"
  | .leaf (.state _ _) => "state"
  | .leaf (.addItem _) => "add item"
  | .leaf (.removeItem _) => "remove item"
  | .branch .ifBranch _ _ => "if"
  | .branch .elseBranch _ _ => "else"

/-- The body of a branch. -/
def body? : Element → Option (List Element)
  | .leaf _ => none
  | .branch _ _ body => some body

end Element

/-! ## The levels of a book -/

/-- A labelled reference to a section. -/
structure Link where
  /-- The label. -/
  title : String
  /-- The id of the chapter it leads to. -/
  chapterId : String
  /-- The id of the section it leads to. -/
  sectionId : String
  deriving DecidableEq, Repr

/-- The unit of narrative that links lead to. -/
structure Section where
  /-- The id, not necessarily unique. -/
  id : String
  /-- The title. -/
  title : String
  /-- The content, in order. -/
  elements : List Element
  /-- The ways on, in order. -/
  links : List Link
  deriving DecidableEq, Repr

/-- A sequence of sections. -/
structure Chapter where
  /-- The id, not necessarily unique. -/
  id : String
  /-- The title. -/
  title : String
  /-- The sections, in order. -/
  sections : List Section
  deriving DecidableEq, Repr

/-- A whole gamebook. -/
structure Book where
  /-- The title. -/
  title : String
  /-- The chapters, in order. -/
  chapters : List Chapter
  deriving DecidableEq, Repr

end Gamebook.Story
