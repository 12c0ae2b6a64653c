import Gamebook.Proofs.Recognition
import Gamebook.Proofs.WellFormed

/-!
# Rendering a book

The rendering of a book is a list of *passages*, which are tokens without their
lines.  The book, each chapter and each section are rendered by their headings
and then by what they hold.  A branch without an alternative is closed after its
body, and one with an alternative after the body of that.  Links come last in
their section, and each names its chapter.

The grammar derives a well-formed book from its rendering, whatever the lines
are (`DerivesBook.of_passages`).  So strict parsing is the inverse of rendering,
and the books that it gives are the well-formed ones.
-/

namespace Gamebook.Script

open Gamebook.Story

/-! ## Passages -/

/-- A token without its line. -/
structure Passage where
  /-- Directive or paragraph. -/
  kind : TokenKind
  /-- The text. -/
  text : String
  deriving DecidableEq, Repr

/-- What the token says, on whatever line. -/
def Token.passage (token : Token) : Passage := ⟨token.kind, token.text⟩

namespace Passage

/-- A directive with these words. -/
def command (keyword : Keyword) (fields : List String) : Passage :=
  ⟨.directive, " ".intercalate (keyword.spelling :: fields)⟩

/-- A paragraph. -/
def paragraph (text : String) : Passage := ⟨.paragraph, text⟩

/-- The directive or text of a leaf. -/
def ofLeaf : Leaf → Passage
  | .paragraph text => paragraph text
  | .state id modifier => command .state [id, modifier]
  | .addItem id => command .item [id]
  | .removeItem id => command .item ["remove", id]

/-- The directive of a link, which names its chapter. -/
def ofLink (link : Link) : Passage :=
  command .jump (link.chapterId :: link.sectionId :: if link.title = "" then [] else [link.title])

end Passage

/-! ## The rendering -/

/-- The end of the branch, unless its alternative comes next. -/
def renderEnd : Element → List Element → List Passage
  | .leaf _, _ => []
  | .branch .ifBranch _ _, .branch .elseBranch _ _ :: _ => []
  | .branch _ _ _, _ => [.command .closeIf []]

mutual

/-- An element without the end of its branch. -/
def renderElement : Element → List Passage
  | .leaf leaf => [.ofLeaf leaf]
  | .branch .ifBranch condition body => .command .openIf [condition] :: renderElements body
  | .branch .elseBranch _ body => .command .openElse [] :: renderElements body

/-- Elements in a row. -/
def renderElements : List Element → List Passage
  | [] => []
  | first :: rest => renderElement first ++ renderEnd first rest ++ renderElements rest

end

/-- The heading of a section, its elements and its links. -/
def renderSection (here : Section) : List Passage :=
  .command .openSection [here.id] :: .paragraph here.title ::
    (renderElements here.elements ++ here.links.map .ofLink)

/-- The heading of a chapter and its sections. -/
def renderChapter (chapter : Chapter) : List Passage :=
  .command .openChapter [chapter.id] :: .paragraph chapter.title ::
    chapter.sections.flatMap renderSection

/-- The heading of a book and its chapters. -/
def render (book : Book) : List Passage :=
  .command .openBook [] :: .paragraph book.title :: book.chapters.flatMap renderChapter

/-! ## Reading passages -/

theorem Keyword.anyWord_spelling (keyword : Keyword) : AnyWord keyword.spelling := by
  cases keyword <;> decide

theorem Keyword.lower_spelling (keyword : Keyword) :
    String.ofList (Text.lower keyword.spelling.toList) = keyword.spelling := by
  cases keyword <;> decide +kernel

/-- A token that was written as a command is read as that command. -/
theorem Token.reads_of_passage {token : Token} {keyword : Keyword} {fields : List String}
    (areWords : ∀ field ∈ fields, AnyWord field)
    (same : token.passage = .command keyword fields) : token.Reads keyword fields := by
  obtain ⟨isDirective, text_eq⟩ := Passage.mk.inj same
  have reading : token.reading = ⟨keyword.spelling, fields, token.line⟩ := by
    rw [Token.reading, text_eq, Directive.ofText_intercalate, keyword.lower_spelling]
    simpa using ⟨keyword.anyWord_spelling, areWords⟩
  refine ⟨isDirective, ?_, by rw [reading]⟩
  rw [reading]
  exact Keyword.ofSpelling?_eq_some_iff.mpr rfl

theorem Token.paragraph_of_passage {token : Token} {text : String}
    (same : token.passage = .paragraph text) : token.kind = .paragraph ∧ token.text = text :=
  Passage.mk.inj same

/-- A phrase at the end of a directive is as good as its words. -/
theorem Passage.command_phrase (keyword : Keyword) (fields : List String) (word : String)
    (more : List String) :
    command keyword (fields ++ [" ".intercalate (word :: more)]) =
      command keyword (fields ++ word :: more) := by
  have joined : " ".intercalate [" ".intercalate (word :: more)] =
      " ".intercalate (word :: more) := String.intercalate_singleton
  rw [command, command, ← List.cons_append, ← List.cons_append,
    String.intercalate_append_of_ne_nil (by simp) (by simp), joined,
    ← String.intercalate_append_of_ne_nil (by simp) (by simp)]

/-- A phrase with words in it has a first one. -/
theorem exists_words_of_phrase {Word : String → Prop} {text : String}
    (phrase : IsPhrase Word text) (nonempty : text ≠ "") :
    ∃ word more, (∀ field ∈ word :: more, Word field) ∧ text = " ".intercalate (word :: more) := by
  obtain ⟨ws, areWords, rfl⟩ := phrase
  cases ws with
  | nil => exact absurd String.intercalate_nil nonempty
  | cons word more => exact ⟨word, more, areWords, rfl⟩

/-- A link is rendered word by word. -/
theorem Passage.exists_ofLink_eq {Word : String → Prop} {link : Link} (madeOf : link.MadeOf Word) :
    ∃ ws, (∀ word ∈ link.chapterId :: link.sectionId :: ws, Word word) ∧
      link.title = " ".intercalate ws ∧
      ofLink link = command .jump (link.chapterId :: link.sectionId :: ws) := by
  obtain ⟨phrase, chapter, target⟩ := madeOf
  by_cases untitled : link.title = ""
  · refine ⟨[], by simpa using ⟨chapter, target⟩, by rw [untitled, String.intercalate_nil], ?_⟩
    rw [ofLink, if_pos untitled]
  · obtain ⟨word, more, areWords, title⟩ := exists_words_of_phrase phrase untitled
    refine ⟨word :: more, by simpa using ⟨chapter, target, by simpa using areWords⟩, title, ?_⟩
    rw [ofLink, if_neg untitled, title]
    exact command_phrase .jump [link.chapterId, link.sectionId] word more

/-- A condition is written as one field and read as its words. -/
theorem Token.reads_condition {token : Token} {word : String} {more : List String}
    (areWords : ∀ field ∈ word :: more, AnyWord field)
    (same : token.passage = .command .openIf [" ".intercalate (word :: more)]) :
    token.Reads .openIf (word :: more) :=
  reads_of_passage areWords (same.trans (Passage.command_phrase .openIf [] word more))

/-- A leaf is derived from the token it was written as. -/
theorem DerivesLeaf.of_passage {token : Token} {leaf : Leaf} (madeOf : leaf.MadeOf AnyWord AnyText)
    (same : token.passage = .ofLeaf leaf) : DerivesLeaf token leaf := by
  cases leaf with
  | paragraph text =>
    obtain ⟨isParagraph, rfl⟩ := Token.paragraph_of_passage same
    exact .paragraph isParagraph
  | state id modifier =>
    obtain ⟨isId, isModifier⟩ := madeOf
    exact .state (Token.reads_of_passage (by simpa using ⟨isId, isModifier⟩) same)
  | addItem id =>
    obtain ⟨isId, kept⟩ := madeOf
    exact .addItem (Token.reads_of_passage (by simpa using isId) same) kept
  | removeItem id =>
    have isId : AnyWord id := madeOf
    have remove : AnyWord "remove" := by decide
    exact .removeItem (Token.reads_of_passage (by simpa using ⟨remove, isId⟩) same)
      (by decide)

theorem DerivesLink.of_passage (chapterId : String) {token : Token} {link : Link}
    (madeOf : link.MadeOf AnyWord) (same : token.passage = .ofLink link) :
    DerivesLink chapterId token link := by
  obtain ⟨ws, areWords, title, rendered⟩ := Passage.exists_ofLink_eq madeOf
  have derives : DerivesLink chapterId token ⟨" ".intercalate ws, link.chapterId, link.sectionId⟩ :=
    .jump (Token.reads_of_passage areWords (same.trans rendered))
  rwa [← title] at derives

/-! ## From the rendering to a derivation -/

theorem Sequence.append {α : Type} {Part : List Token → List α → List Link → Prop}
    {tokens others : List Token} {given more : List α} {links ways : List Link}
    (first : Sequence Part tokens given links) (second : Sequence Part others more ways) :
    Sequence Part (tokens ++ others) (given ++ more) (links ++ ways) := by
  induction first with
  | nil => exact second
  | cons part _ ih =>
    rw [List.append_assoc, List.append_assoc, List.append_assoc]
    exact .cons part ih

theorem renderElements_leaves (leaves : List Leaf) :
    renderElements (leaves.map .leaf) = leaves.map .ofLeaf := by
  induction leaves with
  | nil => rfl
  | cons leaf rest ih => simp [renderElements, renderElement, renderEnd, ih]

section Deriving

variable {chapterId : String} {tokens : List Token}

/-- The leaves of a branch are derived from what they were written as. -/
theorem DerivesBody.of_passages (chapterId : String) {leaves : List Leaf}
    (madeOf : ∀ leaf ∈ leaves, leaf.MadeOf AnyWord AnyText)
    (same : tokens.map Token.passage = renderElements (leaves.map .leaf)) :
    DerivesBody chapterId tokens leaves [] := by
  rw [renderElements_leaves] at same
  induction leaves generalizing tokens with
  | nil =>
    obtain rfl := List.map_eq_nil_iff.mp same
    exact .nil
  | cons leaf leaves ih =>
    obtain ⟨token, rest, rfl, first, others⟩ := List.map_eq_cons_iff.mp same
    have derives := DerivesLeaf.of_passage (madeOf leaf (.head _)) first
    exact .cons (.leaf derives) (ih (fun other inside => madeOf other (.tail _ inside)) others)

theorem DerivesItems.of_links {links : List Link} (madeOf : ∀ link ∈ links, link.MadeOf AnyWord)
    (same : tokens.map Token.passage = links.map .ofLink) :
    DerivesItems chapterId tokens [] links := by
  induction links generalizing tokens with
  | nil =>
    obtain rfl := List.map_eq_nil_iff.mp same
    exact .nil
  | cons link links ih =>
    obtain ⟨token, rest, rfl, first, others⟩ := List.map_eq_cons_iff.mp same
    have derives := DerivesLink.of_passage chapterId (madeOf link (.head _)) first
    exact .cons (.link derives) (ih (fun other inside => madeOf other (.tail _ inside)) others)

/-- An `if` is closed before elements that are arranged by themselves: none of
them is its alternative. -/
theorem renderEnd_of_arranged {rest : List Element} (arranged : Arranged AnyWord AnyText rest)
    (condition : String) (body : List Element) :
    renderEnd (.branch .ifBranch condition body) rest = [.command .closeIf []] := by
  cases arranged <;> rfl

/-- Elements are derived from what they were written as, branch by branch. -/
theorem DerivesItems.of_passages {elements : List Element}
    (arranged : Arranged AnyWord AnyText elements)
    (same : tokens.map Token.passage = renderElements elements) :
    DerivesItems chapterId tokens elements [] := by
  induction arranged generalizing tokens with
  | nil =>
    obtain rfl := List.map_eq_nil_iff.mp same
    exact .nil
  | leaf madeOf _ ih =>
    obtain ⟨token, rest, rfl, first, others⟩ := List.map_eq_cons_iff.mp same
    exact .cons (.leaf (.of_passage madeOf first)) (ih others)
  | branch phrase nonempty areMadeOf later ih =>
    obtain ⟨word, more, areWords, rfl⟩ := exists_words_of_phrase phrase nonempty
    simp only [renderElements, renderElement, renderEnd_of_arranged later, List.append_assoc,
      List.cons_append, List.nil_append] at same
    obtain ⟨opening, tokens, rfl, first, same⟩ := List.map_eq_cons_iff.mp same
    obtain ⟨inner, tokens, rfl, held, same⟩ := List.map_eq_append_iff.mp same
    obtain ⟨closing, tokens, rfl, last, others⟩ := List.map_eq_cons_iff.mp same
    have item := DerivesItem.branch (Token.reads_condition areWords first)
      (.of_passages chapterId areMadeOf held) (Token.reads_of_passage (by simp) last)
    have items : DerivesItems chapterId _ _ _ := .cons item (ih others)
    simpa using items
  | fork phrase nonempty areMadeOf areMadeOf' later ih =>
    obtain ⟨word, more, areWords, rfl⟩ := exists_words_of_phrase phrase nonempty
    simp only [renderElements, renderElement, renderEnd, List.append_assoc,
      List.cons_append, List.nil_append] at same
    obtain ⟨opening, tokens, rfl, first, same⟩ := List.map_eq_cons_iff.mp same
    obtain ⟨inner, tokens, rfl, held, same⟩ := List.map_eq_append_iff.mp same
    obtain ⟨turning, tokens, rfl, middle, same⟩ := List.map_eq_cons_iff.mp same
    obtain ⟨inner', tokens, rfl, held', same⟩ := List.map_eq_append_iff.mp same
    obtain ⟨closing, tokens, rfl, last, others⟩ := List.map_eq_cons_iff.mp same
    have item := DerivesItem.fork (Token.reads_condition areWords first)
      (.of_passages chapterId areMadeOf held)
      (Token.reads_of_passage (by simp) middle)
      (.of_passages chapterId areMadeOf' held')
      (Token.reads_of_passage (by simp) last)
    have items : DerivesItems chapterId _ _ _ := .cons item (ih others)
    simpa using items

end Deriving

theorem Many.of_passages {α : Type} {Part : List Token → α → Prop} {written : α → List Passage}
    {tokens : List Token} {given : List α}
    (part : ∀ a ∈ given, ∀ tokens : List Token, tokens.map Token.passage = written a →
      Part tokens a)
    (same : tokens.map Token.passage = given.flatMap written) : Many Part tokens given := by
  induction given generalizing tokens with
  | nil =>
    obtain rfl := List.map_eq_nil_iff.mp same
    exact .nil
  | cons first given ih =>
    obtain ⟨inner, rest, rfl, own, others⟩ := List.map_eq_append_iff.mp same
    refine .cons (part first (.head _) inner own) (ih ?_ others)
    intro a inside
    exact part a (.tail _ inside)

/-- A section is derived from its heading, its elements and its links. -/
theorem DerivesSection.of_passages {chapterId : String} {tokens : List Token} {here : Section}
    (madeOf : here.MadeOf AnyWord AnyText) (same : tokens.map Token.passage = renderSection here) :
    DerivesSection chapterId tokens here := by
  obtain ⟨opening, tokens, rfl, first, same⟩ := List.map_eq_cons_iff.mp same
  obtain ⟨title, tokens, rfl, second, same⟩ := List.map_eq_cons_iff.mp same
  obtain ⟨inner, ways, rfl, held, links⟩ := List.map_eq_append_iff.mp same
  obtain ⟨isParagraph, titled⟩ := Token.paragraph_of_passage second
  have arranged := arranged_of_madeOf here.elements madeOf.elements madeOf.elses
  have items : DerivesItems chapterId (inner ++ ways) (here.elements ++ []) ([] ++ here.links) :=
    (DerivesItems.of_passages arranged held).append (DerivesItems.of_links madeOf.links links)
  rw [List.append_nil, List.nil_append] at items
  have opens := Token.reads_of_passage (by simpa using madeOf.id) first
  have derives := DerivesSection.mk opens isParagraph items
  rwa [titled] at derives

theorem DerivesChapter.of_passages {tokens : List Token} {chapter : Chapter}
    (madeOf : chapter.MadeOf AnyWord AnyText)
    (same : tokens.map Token.passage = renderChapter chapter) :
    DerivesChapter tokens chapter := by
  obtain ⟨opening, tokens, rfl, first, same⟩ := List.map_eq_cons_iff.mp same
  obtain ⟨title, tokens, rfl, second, same⟩ := List.map_eq_cons_iff.mp same
  obtain ⟨isParagraph, titled⟩ := Token.paragraph_of_passage second
  have opens := Token.reads_of_passage (by simpa using madeOf.id) first
  have sections : Many (DerivesSection chapter.id) tokens chapter.sections :=
    .of_passages (fun here inside _ => .of_passages (madeOf.sections here inside)) same
  have derives := DerivesChapter.mk opens isParagraph sections
  rwa [titled] at derives

/-- A well-formed book is derived from its rendering, whatever the lines are. -/
theorem DerivesBook.of_passages {tokens : List Token} {book : Book}
    (wellFormed : book.WellFormed) (same : tokens.map Token.passage = render book) :
    DerivesBook tokens book := by
  obtain ⟨opening, tokens, rfl, first, same⟩ := List.map_eq_cons_iff.mp same
  obtain ⟨title, tokens, rfl, second, same⟩ := List.map_eq_cons_iff.mp same
  obtain ⟨isParagraph, titled⟩ := Token.paragraph_of_passage second
  have opens := Token.reads_of_passage (by simp) first
  have chapters : Many DerivesChapter tokens book.chapters :=
    .of_passages (fun chapter inside _ => .of_passages (wellFormed.chapters chapter inside)) same
  have derives := DerivesBook.mk opens isParagraph chapters
  rwa [titled] at derives

/-! ## Parsing and rendering -/

/-- The passage as a token on the first line. -/
def Passage.token (passage : Passage) : Token := ⟨passage.kind, passage.text, 1⟩

/-- The tokens that are made of passages have these passages. -/
theorem passage_token (passages : List Passage) :
    (passages.map Passage.token).map Token.passage = passages := by
  rw [List.map_map]
  exact List.map_id passages

/-- The books of strict parses are the well-formed ones, and strict parsing gives
back what is rendered. -/
theorem wellFormed_iff_parsed (book : Book) :
    (book.WellFormed ↔ ∃ tokens, (parse .strict tokens).result = .ok book) ∧
      (book.WellFormed → ∀ tokens : List Token, tokens.map Token.passage = render book →
        (parse .strict tokens).result = .ok book) := by
  refine ⟨⟨?_, ?_⟩, ?_⟩
  · intro wellFormed
    have derives := DerivesBook.of_passages wellFormed (passage_token (render book))
    exact ⟨_, derives.parse_eq⟩
  · rintro ⟨tokens, parsed⟩
    exact (DerivesBook.of_parse parsed).wellFormed
  · intro wellFormed tokens same
    have derives := DerivesBook.of_passages wellFormed same
    exact derives.parse_eq

/-- A book with an alternative and a link without a title. -/
theorem wellFormed_forked_book :
    ∃ book : Book, book.WellFormed ∧
      book = ⟨"T", [⟨"c", "C", [⟨"s", "S", [.branch .ifBranch "a b" [.leaf (.addItem "k")],
        .branch .elseBranch "a b" []], [⟨"", "c", "s"⟩]⟩]⟩]⟩ ∧
      (parse .strict ((render book).map Passage.token)).result = .ok book := by
  have parsed : (parse .strict
      [.directive "book" 1, .paragraph "T" 2, .directive "chapter c" 3, .paragraph "C" 4,
        .directive "section s" 5, .paragraph "S" 6, .directive "if a  b" 7, .directive "> s" 8,
        .directive "item k" 9, .directive "else" 10, .directive "endif" 11]).result =
      .ok ⟨"T", [⟨"c", "C", [⟨"s", "S", [.branch .ifBranch "a b" [.leaf (.addItem "k")],
        .branch .elseBranch "a b" []], [⟨"", "c", "s"⟩]⟩]⟩]⟩ := by
    rfl
  have wellFormed := (wellFormed_iff_parsed _).1.mpr ⟨_, parsed⟩
  exact ⟨_, wellFormed, rfl, (wellFormed_iff_parsed _).2 wellFormed _ (passage_token _)⟩

end Gamebook.Script
