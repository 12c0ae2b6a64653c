import Gamebook.Proofs.Grammar
import Gamebook.Proofs.Words

/-!
# Well-formed books

A book can be more than a script can say: ids with spaces in them, branches
inside of branches, an alternative without its branch.  A *well-formed* book is
none of this.  Its ids are words, its conditions and the titles of its links are
words with single spaces between them, the bodies of its branches hold leaves,
and each alternative stands right behind its branch.  The texts and the other
titles are free.

What counts as a word and as a text is a parameter of the definitions.  A book
that the grammar derives is made of what its tokens say.  So it is well-formed,
and it is also made of single lines if the tokens are.
-/

namespace Gamebook.Story

open Gamebook.Script (isRemove)

section MadeOf

variable (Word Text : String → Prop)

/-- Words with a single space between each two. -/
def IsPhrase (text : String) : Prop :=
  ∃ ws : List String, (∀ word ∈ ws, Word word) ∧ text = " ".intercalate ws

/-- Ids are words, and an item that is gained is not called `remove`. -/
def Leaf.MadeOf : Leaf → Prop
  | .paragraph text => Text text
  | .state id modifier => Word id ∧ Word modifier
  | .addItem id => Word id ∧ isRemove id = false
  | .removeItem id => Word id

/-- A branch has a condition, and it holds leaves. -/
def Element.MadeOf : Element → Prop
  | .leaf plain => plain.MadeOf Word Text
  | .branch _ condition body => IsPhrase Word condition ∧ condition ≠ "" ∧
      ∀ inner ∈ body, ∃ plain, inner = .leaf plain ∧ plain.MadeOf Word Text

/-- Each alternative stands right behind a branch with its condition. -/
def ElsesFollow (elements : List Element) : Prop :=
  ∀ before condition body after,
    elements = before ++ .branch .elseBranch condition body :: after →
      ∃ earlier inner, before = earlier ++ [.branch .ifBranch condition inner]

/-- Both ids of a link are words, and its title is a phrase. -/
structure Link.MadeOf (link : Link) : Prop where
  /-- The title may be without words. -/
  title : IsPhrase Word link.title
  /-- The id of the chapter is a word. -/
  chapterId : Word link.chapterId
  /-- The id of the section is a word. -/
  sectionId : Word link.sectionId

/-- What is in a section. -/
structure Section.MadeOf (here : Section) : Prop where
  /-- The id is a word. -/
  id : Word here.id
  /-- The title is a text. -/
  title : Text here.title
  /-- The elements are made of words and texts. -/
  elements : ∀ element ∈ here.elements, element.MadeOf Word Text
  /-- The alternatives are in their places. -/
  elses : ElsesFollow here.elements
  /-- The links are made of words. -/
  links : ∀ link ∈ here.links, link.MadeOf Word

/-- What is in a chapter. -/
structure Chapter.MadeOf (chapter : Chapter) : Prop where
  /-- The id is a word. -/
  id : Word chapter.id
  /-- The title is a text. -/
  title : Text chapter.title
  /-- The sections are made of words and texts. -/
  sections : ∀ here ∈ chapter.sections, here.MadeOf Word Text

/-- What is in a book. -/
structure Book.MadeOf (book : Book) : Prop where
  /-- The title is a text. -/
  title : Text book.title
  /-- The chapters are made of words and texts. -/
  chapters : ∀ chapter ∈ book.chapters, chapter.MadeOf Word Text

end MadeOf

/-- Any word of a directive. -/
def AnyWord (text : String) : Prop := Text.IsWord text.toList

instance (text : String) : Decidable (AnyWord text) :=
  inferInstanceAs (Decidable (Text.IsWord text.toList))

/-- Any text at all. -/
def AnyText (_ : String) : Prop := True

/-- The ids and modifiers are words, the conditions and the titles of links are
made of words, and the branches are in order. -/
def Book.WellFormed (book : Book) : Prop := book.MadeOf AnyWord AnyText

/-! ## Alternatives in their places -/

theorem elsesFollow_nil : ElsesFollow [] := by
  intro before condition body after split
  simp at split

/-- Lists in which every alternative follows its `if` can be put together. -/
theorem ElsesFollow.append {first others : List Element} (inFirst : ElsesFollow first)
    (inOthers : ElsesFollow others) : ElsesFollow (first ++ others) := by
  intro before condition body after split
  rcases List.append_eq_append_iff.mp split with
    ⟨middle, rfl, rest⟩ | ⟨middle, rfl, rest⟩
  · obtain ⟨earlier, inner, rfl⟩ := inOthers middle condition body after rest
    exact ⟨first ++ earlier, inner, by simp⟩
  · cases middle with
    | nil =>
      obtain ⟨earlier, inner, none⟩ := inOthers [] condition body after (by simpa using rest.symm)
      simp at none
    | cons element middle =>
      obtain ⟨rfl, -⟩ := List.cons.inj rest
      obtain ⟨earlier, inner, rfl⟩ := inFirst before condition body middle rfl
      exact ⟨earlier, inner, rfl⟩

theorem elsesFollow_leaf (leaf : Leaf) : ElsesFollow [.leaf leaf] := by
  intro before condition body after split
  cases before <;> simp at split

theorem elsesFollow_branch (condition : String) (body : List Element) :
    ElsesFollow [.branch .ifBranch condition body] := by
  intro before condition' body' after split
  cases before <;> simp at split

/-- An `if` with its alternative is such a list. -/
theorem elsesFollow_fork (condition : String) (body body' : List Element) :
    ElsesFollow [.branch .ifBranch condition body, .branch .elseBranch condition body'] := by
  intro before condition' inner after split
  cases before with
  | nil => simp at split
  | cons element before =>
    obtain ⟨rfl, rest⟩ := List.cons.inj split
    cases before with
    | nil =>
      obtain ⟨same, -⟩ := List.cons.inj rest
      cases same
      exact ⟨[], body, rfl⟩
    | cons element before => simp at rest

/-! ## Elements in their order -/

/-- Elements made of words and texts, each alternative with its branch. -/
inductive Arranged (Word Text : String → Prop) : List Element → Prop where
  /-- No element. -/
  | nil : Arranged Word Text []
  /-- A leaf in front. -/
  | leaf {leaf : Leaf} {rest : List Element} (madeOf : leaf.MadeOf Word Text)
      (later : Arranged Word Text rest) : Arranged Word Text (.leaf leaf :: rest)
  /-- A branch without an alternative in front. -/
  | branch {condition : String} {leaves : List Leaf} {rest : List Element}
      (phrase : IsPhrase Word condition) (nonempty : condition ≠ "")
      (areMadeOf : ∀ leaf ∈ leaves, leaf.MadeOf Word Text) (later : Arranged Word Text rest) :
      Arranged Word Text (.branch .ifBranch condition (leaves.map .leaf) :: rest)
  /-- A branch with its alternative in front. -/
  | fork {condition : String} {leaves leaves' : List Leaf} {rest : List Element}
      (phrase : IsPhrase Word condition) (nonempty : condition ≠ "")
      (areMadeOf : ∀ leaf ∈ leaves, leaf.MadeOf Word Text)
      (areMadeOf' : ∀ leaf ∈ leaves', leaf.MadeOf Word Text) (later : Arranged Word Text rest) :
      Arranged Word Text (.branch .ifBranch condition (leaves.map .leaf) ::
        .branch .elseBranch condition (leaves'.map .leaf) :: rest)

/-- The body of a branch is a list of leaves. -/
theorem leaves_of_body {Word Text : String → Prop} {body : List Element}
    (areLeaves : ∀ inner ∈ body, ∃ leaf, inner = .leaf leaf ∧ leaf.MadeOf Word Text) :
    ∃ leaves : List Leaf, body = leaves.map .leaf ∧ ∀ leaf ∈ leaves, leaf.MadeOf Word Text := by
  induction body with
  | nil => exact ⟨[], rfl, by simp⟩
  | cons first rest ih =>
    obtain ⟨leaf, rfl, madeOf⟩ := areLeaves first (.head _)
    obtain ⟨leaves, rfl, others⟩ := ih fun inner inside => areLeaves inner (.tail _ inside)
    exact ⟨leaf :: leaves, rfl, by simpa [madeOf] using others⟩

/-- What stands before an alternative is an `if` with its condition. -/
theorem branch_of_elsesFollow (front : List Element) {rest : List Element} {last : Element}
    {condition : String} {body : List Element}
    (follow : ElsesFollow (front ++ last :: .branch .elseBranch condition body :: rest)) :
    ∃ inner, last = .branch .ifBranch condition inner := by
  obtain ⟨earlier, inner, split⟩ := follow (front ++ [last]) condition body rest (by simp)
  exact ⟨inner, (List.append_singleton_inj.mp split).2⟩

/-- To leave out elements in front does no harm, unless an alternative is left
without its branch. -/
theorem elsesFollow_of_append (front : List Element) {rest : List Element}
    (follow : ElsesFollow (front ++ rest))
    (notElse : ∀ condition body after, rest ≠ .branch .elseBranch condition body :: after) :
    ElsesFollow rest := by
  intro before condition body after split
  obtain ⟨earlier, inner, whole⟩ := follow (front ++ before) condition body after (by simp [split])
  rcases List.eq_nil_or_concat before with rfl | ⟨others, last, rfl⟩
  · exact absurd split (notElse condition body after)
  · rw [List.concat_eq_append, ← List.append_assoc, List.append_singleton_inj] at whole
    exact ⟨others, inner, by rw [List.concat_eq_append, whole.2]⟩

/-- The induction takes a branch and its alternative in one step. -/
theorem arranged_of_madeOf {Word Text : String → Prop} : ∀ (elements : List Element),
    (∀ element ∈ elements, element.MadeOf Word Text) → ElsesFollow elements →
      Arranged Word Text elements
  | [], _, _ => .nil
  | .leaf leaf :: rest, madeOf, follow => by
    have later := arranged_of_madeOf rest fun element inside => madeOf element (.tail _ inside)
    refine .leaf (madeOf _ (.head _)) (later (elsesFollow_of_append [_] follow ?_))
    rintro condition body after rfl
    obtain ⟨inner, same⟩ := branch_of_elsesFollow [] follow
    cases same
  | .branch .elseBranch condition body :: rest, _, follow => by
    obtain ⟨earlier, inner, none⟩ := follow [] condition body rest rfl
    simp at none
  | .branch .ifBranch condition body :: rest, madeOf, follow => by
    obtain ⟨phrase, nonempty, areLeaves⟩ := madeOf _ (.head _)
    obtain ⟨leaves, rfl, areMadeOf⟩ := leaves_of_body areLeaves
    by_cases forked : ∃ condition body after, rest = .branch .elseBranch condition body :: after
    · obtain ⟨condition', body', after, rfl⟩ := forked
      obtain ⟨inner, same⟩ := branch_of_elsesFollow [] follow
      obtain ⟨-, rfl, -⟩ := Element.branch.inj same
      obtain ⟨-, -, areLeaves'⟩ := madeOf _ (.tail _ (.head _))
      obtain ⟨leaves', rfl, areMadeOf'⟩ := leaves_of_body areLeaves'
      have later := arranged_of_madeOf after fun element inside =>
        madeOf element (.tail _ (.tail _ inside))
      refine .fork phrase nonempty areMadeOf areMadeOf'
        (later (elsesFollow_of_append [_, _] follow ?_))
      rintro condition'' body'' after' rfl
      obtain ⟨inner, same⟩ := branch_of_elsesFollow [_] follow
      cases same
    · have later := arranged_of_madeOf rest fun element inside => madeOf element (.tail _ inside)
      refine .branch phrase nonempty areMadeOf (later (elsesFollow_of_append [_] follow ?_))
      exact fun condition body after same => forked ⟨condition, body, after, same⟩
termination_by elements => elements.length

end Gamebook.Story

namespace Gamebook.Script

open Gamebook.Story

/-! ## What the grammar derives -/

/-- The fields of a directive and the text of a paragraph are such. -/
structure Token.Bears (Word Text : String → Prop) (token : Token) : Prop where
  /-- The fields are words. -/
  words : ∀ keyword fields, token.Reads keyword fields → ∀ field ∈ fields, Word field
  /-- The text is a text. -/
  text : token.kind = .paragraph → Text token.text

theorem Token.Reads.words {token : Token} {keyword : Keyword} {fields : List String}
    (reads : token.Reads keyword fields) : ∀ field ∈ fields, AnyWord field := by
  intro field isField
  rw [← reads.fields_eq] at isField
  exact Directive.isWord_of_mem_fields isField

/-- Whatever a token bears, it bears it in words. -/
theorem Token.bears_words (token : Token) : token.Bears AnyWord AnyText :=
  ⟨fun _ _ reads => reads.words, fun _ => trivial⟩

section Derived

variable {Word Text : String → Prop} {chapterId : String} {token : Token} {tokens : List Token}
  {links : List Link}

/-- What the tokens bear is found in the leaf that they derive. -/
theorem DerivesLeaf.madeOf {leaf : Leaf} (derives : DerivesLeaf token leaf)
    (bears : token.Bears Word Text) : leaf.MadeOf Word Text := by
  cases derives with
  | paragraph isParagraph => exact bears.text isParagraph
  | state reads =>
    have words := bears.words _ _ reads
    exact ⟨words _ (by simp), words _ (by simp)⟩
  | addItem reads kept => exact ⟨bears.words _ _ reads _ (by simp), kept⟩
  | removeItem reads removed => exact bears.words _ _ reads _ (by simp)

theorem DerivesLink.madeOf {link : Link} (derives : DerivesLink chapterId token link)
    (inChapter : Word chapterId) (bears : token.Bears Word Text) : link.MadeOf Word := by
  cases derives with
  | next reads =>
    have words := bears.words _ _ reads
    exact ⟨⟨_, fun word inside => words word (.tail _ inside), rfl⟩, inChapter, words _ (by simp)⟩
  | jump reads =>
    have words := bears.words _ _ reads
    exact ⟨⟨_, fun word inside => words word (.tail _ (.tail _ inside)), rfl⟩,
      words _ (by simp), words _ (by simp)⟩

/-- A branch of leaves has a condition, since it was opened with one. -/
theorem Token.Reads.branch_madeOf {keyword : Keyword} {word : String} {more : List String}
    {leaves : List Leaf} (reads : token.Reads keyword (word :: more)) (kind : BranchKind)
    (bears : token.Bears Word Text) (areMadeOf : ∀ leaf ∈ leaves, leaf.MadeOf Word Text) :
    (Element.branch kind (" ".intercalate (word :: more)) (leaves.map .leaf)).MadeOf Word Text := by
  refine ⟨⟨word :: more, bears.words _ _ reads, rfl⟩, ?_, ?_⟩
  · exact intercalate_ne_empty (reads.words word (.head _)) more
  · intro inner isMember
    obtain ⟨leaf, inside, rfl⟩ := List.mem_map.mp isMember
    exact ⟨leaf, rfl, areMadeOf leaf inside⟩

/-- In a branch, both its leaves and its links are made of what the tokens bear. -/
theorem DerivesBody.madeOf {leaves : List Leaf} (body : DerivesBody chapterId tokens leaves links)
    (inChapter : Word chapterId) (bears : ∀ token ∈ tokens, token.Bears Word Text) :
    (∀ leaf ∈ leaves, leaf.MadeOf Word Text) ∧ ∀ link ∈ links, link.MadeOf Word := by
  induction body with
  | nil => simp
  | cons part _ ih =>
    obtain ⟨here, later⟩ := List.forall_mem_append.mp bears
    cases part with
    | leaf derives => simpa [derives.madeOf (here _ (.head _))] using ih later
    | link derives => simpa [derives.madeOf inChapter (here _ (.head _))] using ih later

/-- So is an item of a section: a leaf, a link, or an `if` with or without an `else`. -/
theorem DerivesItem.madeOf {elements : List Element}
    (item : DerivesItem chapterId tokens elements links) (inChapter : Word chapterId)
    (bears : ∀ token ∈ tokens, token.Bears Word Text) :
    (∀ element ∈ elements, element.MadeOf Word Text) ∧ ElsesFollow elements ∧
      ∀ link ∈ links, link.MadeOf Word := by
  cases item with
  | @leaf _ leaf derives =>
    have madeOf : (Element.leaf leaf).MadeOf Word Text := derives.madeOf (bears _ (.head _))
    exact ⟨by simpa using madeOf, elsesFollow_leaf leaf, by simp⟩
  | link derives =>
    exact ⟨by simp, elsesFollow_nil, by simpa using derives.madeOf inChapter (bears _ (.head _))⟩
  | branch opens body closes =>
    obtain ⟨leaves, links⟩ :=
      body.madeOf inChapter fun token inside => bears token (by simp [inside])
    have first := opens.branch_madeOf .ifBranch (bears _ (by simp)) leaves
    exact ⟨by simpa using first, elsesFollow_branch _ _, links⟩
  | fork opens body turns body' closes =>
    obtain ⟨leaves, links⟩ :=
      body.madeOf inChapter fun token inside => bears token (by simp [inside])
    obtain ⟨leaves', links'⟩ :=
      body'.madeOf inChapter fun token inside => bears token (by simp [inside])
    have first := opens.branch_madeOf .ifBranch (bears _ (by simp)) leaves
    have second := opens.branch_madeOf .elseBranch (bears _ (by simp)) leaves'
    refine ⟨by simpa using ⟨first, second⟩, elsesFollow_fork _ _ _, ?_⟩
    exact List.forall_mem_append.mpr ⟨links, links'⟩

theorem DerivesItems.madeOf {elements : List Element}
    (items : DerivesItems chapterId tokens elements links) (inChapter : Word chapterId)
    (bears : ∀ token ∈ tokens, token.Bears Word Text) :
    (∀ element ∈ elements, element.MadeOf Word Text) ∧ ElsesFollow elements ∧
      ∀ link ∈ links, link.MadeOf Word := by
  induction items with
  | nil => exact ⟨by simp, elsesFollow_nil, by simp⟩
  | cons part _ ih =>
    obtain ⟨here, later⟩ := List.forall_mem_append.mp bears
    obtain ⟨first, elses, links⟩ := part.madeOf inChapter here
    obtain ⟨others, elses', links'⟩ := ih later
    exact ⟨List.forall_mem_append.mpr ⟨first, others⟩, elses.append elses',
      List.forall_mem_append.mpr ⟨links, links'⟩⟩

/-- What holds of each part of a list that is derived holds of all of its members. -/
theorem Many.forall_mem {α : Type} {Part : List Token → α → Prop} {Good : α → Prop}
    {given : List α} (many : Many Part tokens given)
    (bears : ∀ token ∈ tokens, token.Bears Word Text)
    (good : ∀ tokens a, Part tokens a → (∀ token ∈ tokens, token.Bears Word Text) → Good a) :
    ∀ a ∈ given, Good a := by
  induction many with
  | nil => simp
  | cons part _ ih =>
    obtain ⟨here, later⟩ := List.forall_mem_append.mp bears
    simpa [good _ _ part here] using ih later

theorem DerivesSection.madeOf {here : Section} (derives : DerivesSection chapterId tokens here)
    (inChapter : Word chapterId) (bears : ∀ token ∈ tokens, token.Bears Word Text) :
    here.MadeOf Word Text := by
  cases derives with
  | mk opens titles items =>
    obtain ⟨elements, elses, links⟩ :=
      items.madeOf inChapter fun token inside => bears token (by simp [inside])
    have words := (bears _ (.head _)).words _ _ opens
    exact ⟨words _ (.head _), (bears _ (by simp)).text titles, elements, elses, links⟩

theorem DerivesChapter.madeOf {chapter : Chapter} (derives : DerivesChapter tokens chapter)
    (bears : ∀ token ∈ tokens, token.Bears Word Text) : chapter.MadeOf Word Text := by
  cases derives with
  | mk opens titles holds =>
    have isWord := (bears _ (.head _)).words _ _ opens _ (.head _)
    refine ⟨isWord, (bears _ (by simp)).text titles, ?_⟩
    exact holds.forall_mem (fun token inside => bears token (by simp [inside]))
      fun _ _ part => part.madeOf isWord

/-- A book is made of what its tokens bear. -/
theorem DerivesBook.madeOf {book : Book} (derives : DerivesBook tokens book)
    (bears : ∀ token ∈ tokens, token.Bears Word Text) : book.MadeOf Word Text := by
  cases derives with
  | mk opens titles holds =>
    refine ⟨(bears _ (by simp)).text titles, ?_⟩
    exact holds.forall_mem (fun token inside => bears token (by simp [inside]))
      fun _ _ part => part.madeOf

end Derived

/-- A derived book is well-formed, since a token bears words and texts whatever it is. -/
theorem DerivesBook.wellFormed {tokens : List Token} {book : Book}
    (derives : DerivesBook tokens book) : book.WellFormed :=
  derives.madeOf fun token _ => token.bears_words

end Gamebook.Script
