import Gamebook.Script.Parse

/-!
# The grammar of scripts

The grammar below derives token lists, and each derivation has a tree.  A
directive is read into its keyword and its fields, and it needs at least the
fields shown.  More are ignored, except that a link takes them all as its title
and a branch as its condition.

* A script is the heading of the book and chapters.
* A chapter is its heading and sections, a section is its heading and items.
* An item is a leaf, a link, or a branch with its end.  Between the two are
  leaves and links, and possibly an alternative with leaves and links.
* A leaf is text, a change of state, or an item gained or lost.

A heading is a directive and one paragraph, which is the title.  Wherever a link
stands in a section, it is one of the links of the section.

The grammar says nothing of the order in which tokens are read, of what is
remembered between them, or of what happens to other token lists.
-/

namespace Gamebook.Script

open Gamebook.Story

/-- The token is a directive with this keyword and these fields. -/
structure Token.Reads (token : Token) (keyword : Keyword) (fields : List String) : Prop where
  /-- It is no text. -/
  isDirective : token.kind = .directive
  /-- Its name is in the vocabulary. -/
  keyword_eq : token.reading.keyword? = some keyword
  /-- Its words after the name. -/
  fields_eq : token.reading.fields = fields

/-! ## Leaves and links -/

/-- The token is a leaf. -/
inductive DerivesLeaf (token : Token) : Leaf → Prop where
  /-- Narrative text. -/
  | paragraph (isParagraph : token.kind = .paragraph) :
      DerivesLeaf token (.paragraph token.text)
  /-- A change of state. -/
  | state {id modifier : String} {surplus : List String}
      (reads : token.Reads .state (id :: modifier :: surplus)) :
      DerivesLeaf token (.state id modifier)
  /-- An item gained. -/
  | addItem {id : String} {surplus : List String} (reads : token.Reads .item (id :: surplus))
      (kept : isRemove id = false) : DerivesLeaf token (.addItem id)
  /-- An item lost. -/
  | removeItem {word id : String} {surplus : List String}
      (reads : token.Reads .item (word :: id :: surplus)) (removed : isRemove word = true) :
      DerivesLeaf token (.removeItem id)

/-- The token is a link in this chapter. -/
inductive DerivesLink (chapterId : String) (token : Token) : Link → Prop where
  /-- A link to a section of the same chapter. -/
  | next {target : String} {label : List String}
      (reads : token.Reads .next (target :: label)) :
      DerivesLink chapterId token ⟨" ".intercalate label, chapterId, target⟩
  /-- A link to a section of any chapter. -/
  | jump {other target : String} {label : List String}
      (reads : token.Reads .jump (other :: target :: label)) :
      DerivesLink chapterId token ⟨" ".intercalate label, other, target⟩

/-! ## Items -/

/-- Any number of parts in a row, each with what it gives and with links. -/
inductive Sequence {α : Type} (Part : List Token → List α → List Link → Prop) :
    List Token → List α → List Link → Prop where
  /-- No part. -/
  | nil : Sequence Part [] [] []
  /-- One more part in front. -/
  | cons {first rest : List Token} {given others : List α} {links more : List Link}
      (part : Part first given links) (later : Sequence Part rest others more) :
      Sequence Part (first ++ rest) (given ++ others) (links ++ more)

/-- A leaf or a link. -/
inductive DerivesPiece (chapterId : String) : List Token → List Leaf → List Link → Prop where
  /-- A leaf. -/
  | leaf {token : Token} {leaf : Leaf} (derives : DerivesLeaf token leaf) :
      DerivesPiece chapterId [token] [leaf] []
  /-- A link. -/
  | link {token : Token} {link : Link} (derives : DerivesLink chapterId token link) :
      DerivesPiece chapterId [token] [] [link]

/-- What a branch holds. -/
def DerivesBody (chapterId : String) : List Token → List Leaf → List Link → Prop :=
  Sequence (DerivesPiece chapterId)

/-- A leaf, a link or a branch. -/
inductive DerivesItem (chapterId : String) : List Token → List Element → List Link → Prop where
  /-- A leaf. -/
  | leaf {token : Token} {leaf : Leaf} (derives : DerivesLeaf token leaf) :
      DerivesItem chapterId [token] [.leaf leaf] []
  /-- A link. -/
  | link {token : Token} {link : Link} (derives : DerivesLink chapterId token link) :
      DerivesItem chapterId [token] [] [link]
  /-- A branch without an alternative. -/
  | branch {opening closing : Token} {word : String} {more surplus : List String}
      {inner : List Token} {leaves : List Leaf} {links : List Link}
      (opens : opening.Reads .openIf (word :: more))
      (body : DerivesBody chapterId inner leaves links)
      (closes : closing.Reads .closeIf surplus) :
      DerivesItem chapterId (opening :: inner ++ [closing])
        [.branch .ifBranch (" ".intercalate (word :: more)) (leaves.map .leaf)] links
  /-- A branch with an alternative. -/
  | fork {opening turning closing : Token} {word : String} {more surplus surplus' : List String}
      {inner inner' : List Token} {leaves leaves' : List Leaf} {links links' : List Link}
      (opens : opening.Reads .openIf (word :: more))
      (body : DerivesBody chapterId inner leaves links)
      (turns : turning.Reads .openElse surplus)
      (body' : DerivesBody chapterId inner' leaves' links')
      (closes : closing.Reads .closeIf surplus') :
      DerivesItem chapterId (opening :: inner ++ turning :: inner' ++ [closing])
        [.branch .ifBranch (" ".intercalate (word :: more)) (leaves.map .leaf),
          .branch .elseBranch (" ".intercalate (word :: more)) (leaves'.map .leaf)]
        (links ++ links')

/-- What a section holds. -/
def DerivesItems (chapterId : String) : List Token → List Element → List Link → Prop :=
  Sequence (DerivesItem chapterId)

/-! ## Sections, chapters and books -/

/-- Any number of parts in a row. -/
inductive Many {α : Type} (Part : List Token → α → Prop) : List Token → List α → Prop where
  /-- No part. -/
  | nil : Many Part [] []
  /-- One more part in front. -/
  | cons {first rest : List Token} {given : α} {others : List α} (part : Part first given)
      (later : Many Part rest others) : Many Part (first ++ rest) (given :: others)

/-- A section of this chapter. -/
inductive DerivesSection (chapterId : String) : List Token → Section → Prop where
  /-- The heading and the items. -/
  | mk {opening title : Token} {id : String} {surplus : List String} {inner : List Token}
      {elements : List Element} {links : List Link}
      (opens : opening.Reads .openSection (id :: surplus)) (titles : title.kind = .paragraph)
      (items : DerivesItems chapterId inner elements links) :
      DerivesSection chapterId (opening :: title :: inner) ⟨id, title.text, elements, links⟩

/-- A chapter. -/
inductive DerivesChapter : List Token → Chapter → Prop where
  /-- The heading and the sections. -/
  | mk {opening title : Token} {id : String} {surplus : List String} {inner : List Token}
      {sections : List Section}
      (opens : opening.Reads .openChapter (id :: surplus)) (titles : title.kind = .paragraph)
      (holds : Many (DerivesSection id) inner sections) :
      DerivesChapter (opening :: title :: inner) ⟨id, title.text, sections⟩

/-- A script. -/
inductive DerivesBook : List Token → Book → Prop where
  /-- The heading and the chapters. -/
  | mk {opening title : Token} {surplus : List String} {inner : List Token}
      {chapters : List Chapter}
      (opens : opening.Reads .openBook surplus) (titles : title.kind = .paragraph)
      (holds : Many DerivesChapter inner chapters) :
      DerivesBook (opening :: title :: inner) ⟨title.text, chapters⟩

end Gamebook.Script
