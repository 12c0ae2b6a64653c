import Gamebook.Proofs.Validation
import Gamebook.Proofs.History
import Gamebook.Story.Tally
import Mathlib.Algebra.BigOperators.Group.Multiset.Basic
import Mathlib.Algebra.Order.Group.Multiset

/-!
# Nothing is lost on the way to a book

A book is made of *pieces*: headings, texts, links, changes and branches.  Each
token but an `endif` is one piece, where a title counts as a text like any other.
The pieces of a book are those of its tokens (`pieces_of_parse`).  So no token is
dropped, and none is counted twice.

The pieces are conserved in two stages.  On the way from tokens to entries, a piece
may be *due*: a heading has been read and its title is to come, or the title of the
book is known, which is no entry.  Each move keeps the balance of what is read, what
is due and what is entered (`Ledger.Moves.balance`).  On the way from entries to the
book, nothing is lost if what an entry needs is there.  A growth *fits* a ledger if
it has nothing for a branch, section or chapter that the ledger does not have, and
the entries of a run fit (`Ledger.run_growth`).

The tally counts the pieces of a book by kind (`Book.count_pieces`).  So each number of
the tally is a number of tokens (`census_of_parse`).
-/

namespace Gamebook.Story

/-! ## Pieces -/

/-- The kinds of piece that a book is made of. -/
inductive Piece where
  /-- The heading of the book. -/
  | ofBook
  /-- The heading of a chapter. -/
  | ofChapter
  /-- The heading of a section. -/
  | ofSection
  /-- A title or a piece of narrative. -/
  | ofText
  /-- A way on to a section. -/
  | ofLink
  /-- A change of state. -/
  | ofState
  /-- An item gained. -/
  | ofGain
  /-- An item lost. -/
  | ofLoss
  /-- A branch. -/
  | ofIf
  /-- An alternative. -/
  | ofElse
  deriving DecidableEq, Repr

/-- The piece that the leaf is. -/
def Leaf.piece : Leaf → Piece
  | .paragraph _ => .ofText
  | .state _ _ => .ofState
  | .addItem _ => .ofGain
  | .removeItem _ => .ofLoss

/-- The piece that a branch of this kind is, apart from its body. -/
def BranchKind.piece : BranchKind → Piece
  | .ifBranch => .ofIf
  | .elseBranch => .ofElse

mutual

/-- The pieces of an element, with those in its body. -/
def Element.pieces : Element → Multiset Piece
  | .leaf plain => {plain.piece}
  | .branch kind _ body => {kind.piece} + Element.piecesOf body

/-- The pieces of elements. -/
def Element.piecesOf : List Element → Multiset Piece
  | [] => 0
  | element :: rest => element.pieces + Element.piecesOf rest

end

/-- The pieces of a section, with its heading and title. -/
def Section.pieces (here : Section) : Multiset Piece :=
  {.ofSection, .ofText} + Element.piecesOf here.elements +
    Multiset.replicate here.links.length .ofLink

/-- The pieces of a chapter, with its heading and title. -/
def Chapter.pieces (chapter : Chapter) : Multiset Piece :=
  {.ofChapter, .ofText} + (chapter.sections.map Section.pieces).sum

/-- The pieces of a book, with its heading and title. -/
def Book.pieces (book : Book) : Multiset Piece :=
  {.ofBook, .ofText} + (book.chapters.map Chapter.pieces).sum

theorem Element.piecesOf_leaves (leaves : List Leaf) :
    Element.piecesOf (leaves.map .leaf) = ↑(leaves.map Leaf.piece) := by
  induction leaves with
  | nil => rfl
  | cons leaf rest ih =>
    rw [List.map_cons, Element.piecesOf, ih, Element.pieces, List.map_cons, ← Multiset.cons_coe,
      Multiset.singleton_add]

theorem Element.piecesOf_append (elements others : List Element) :
    Element.piecesOf (elements ++ others) =
      Element.piecesOf elements + Element.piecesOf others := by
  induction elements with
  | nil => simp [Element.piecesOf]
  | cons element rest ih => simp only [List.cons_append, Element.piecesOf, ih, add_assoc]

/-! ## Counting the pieces of a book -/

/-- The number of elements that are such a piece. -/
def ElementTally.count (tally : ElementTally) : Piece → Nat
  | .ofText => tally.paragraphs
  | .ofState => tally.stateChanges
  | .ofGain => tally.itemsAdded
  | .ofLoss => tally.itemsRemoved
  | .ofIf => tally.conditionals
  | .ofElse => tally.elseBranches
  | .ofBook | .ofChapter | .ofSection | .ofLink => 0

/-- The number of such pieces.  Each heading has a title. -/
def Tally.count (tally : Tally) : Piece → Nat
  | .ofBook => 1
  | .ofChapter => tally.chapters
  | .ofSection => tally.sections
  | .ofText => tally.elements.paragraphs + 1 + tally.chapters + tally.sections
  | .ofLink => tally.links
  | piece => tally.elements.count piece

namespace ElementTally

theorem count_add (first second : ElementTally) (piece : Piece) :
    (first + second).count piece = first.count piece + second.count piece := by
  cases piece <;> rfl

theorem count_ofLeaf (leaf : Leaf) (piece : Piece) :
    (ofLeaf leaf).count piece = Multiset.count piece {leaf.piece} := by
  cases leaf <;> cases piece <;> rfl

theorem count_ofBranch (kind : BranchKind) (piece : Piece) :
    (ofBranch kind).count piece = Multiset.count piece {kind.piece} := by
  cases kind <;> cases piece <;> rfl

theorem count_zero (piece : Piece) : (0 : ElementTally).count piece = 0 := by
  cases piece <;> rfl

mutual

theorem count_ofElement (piece : Piece) : ∀ element : Element,
    (ofElement element).count piece = element.pieces.count piece
  | .leaf leaf => by rw [ofElement, count_ofLeaf, Element.pieces]
  | .branch kind _ body => by
    rw [ofElement, count_add, count_ofBranch, count_ofElements piece body, Element.pieces,
      Multiset.count_add]

/-- The tally of elements counts the pieces at every depth. -/
theorem count_ofElements (piece : Piece) : ∀ elements : List Element,
    (ofElements elements).count piece = (Element.piecesOf elements).count piece
  | [] => by rw [ofElements, count_zero, Element.piecesOf, Multiset.count_zero]
  | element :: rest => by
    rw [ofElements, count_add, count_ofElement piece element, count_ofElements piece rest,
      Element.piecesOf, Multiset.count_add]

end

end ElementTally

/-- The pieces of sections, sorted. -/
theorem pieces_sections (sections : List Section) :
    (sections.map Section.pieces).sum =
      sections.length • {.ofSection, .ofText} +
        Element.piecesOf (sections.flatMap (·.elements)) +
        Multiset.replicate (sections.flatMap (·.links)).length .ofLink := by
  induction sections with
  | nil => simp [Element.piecesOf]
  | cons here rest ih =>
    simp only [List.map_cons, List.sum_cons, ih, Section.pieces, List.length_cons, succ_nsmul,
      List.flatMap_cons, Element.piecesOf_append, List.length_append, Multiset.replicate_add]
    ac_rfl

/-- The pieces of chapters, with their sections taken together. -/
theorem pieces_chapters (chapters : List Chapter) :
    (chapters.map Chapter.pieces).sum =
      chapters.length • {.ofChapter, .ofText} +
        ((chapters.flatMap (·.sections)).map Section.pieces).sum := by
  induction chapters with
  | nil => simp
  | cons chapter rest ih =>
    simp only [List.map_cons, List.sum_cons, ih, Chapter.pieces, List.length_cons, succ_nsmul,
      List.flatMap_cons, List.map_append, List.sum_append]
    ac_rfl

namespace Book

theorem sections_map_snd (book : Book) :
    book.sections.map Prod.snd = book.chapters.flatMap (·.sections) := by
  simp [sections, List.map_flatMap, Function.comp_def]

/-- The tally counts the pieces of the book, each kind in its field. -/
theorem count_pieces (book : Book) (piece : Piece) :
    book.pieces.count piece = book.tally.count piece := by
  have sections : (book.chapters.flatMap (·.sections)).length = book.sections.length := by
    rw [← sections_map_snd, List.length_map]
  have elements : (book.chapters.flatMap (·.sections)).flatMap (·.elements) =
      book.sections.flatMap fun placed => placed.2.elements := by
    rw [← sections_map_snd, List.flatMap_map]
  have links : ((book.chapters.flatMap (·.sections)).flatMap (·.links)).length =
      book.links.length := by
    rw [← sections_map_snd, List.flatMap_map]
    simp [Book.links, List.length_flatMap]
  rw [pieces, pieces_chapters, pieces_sections, sections, elements, links]
  simp only [Multiset.count_add, Multiset.count_nsmul, Multiset.count_replicate,
    ← ElementTally.count_ofElements]
  cases piece <;> simp [tally, Tally.count, ElementTally.count]
  omega

end Book

end Gamebook.Story

namespace Gamebook.Script

open Gamebook.Story

/-! ## What tokens and entries are -/

/-- The piece that a heading is. -/
def Heading.piece : Heading → Piece
  | .ofBook => .ofBook
  | .ofChapter _ => .ofChapter
  | .ofSection _ => .ofSection

/-- The piece that a directive with this keyword and these fields is. -/
def Keyword.piece? (fields : List String) : Keyword → Option Piece
  | .openBook => some .ofBook
  | .openChapter => some .ofChapter
  | .openSection => some .ofSection
  | .openIf => some .ofIf
  | .openElse => some .ofElse
  | .closeIf => none
  | .item => some (if fields[0]?.any isRemove then .ofLoss else .ofGain)
  | .state => some .ofState
  | .next | .jump => some .ofLink

/-- The piece that the token is. -/
def Token.piece? (token : Token) : Option Piece :=
  match token.kind with
  | .paragraph => some .ofText
  | .directive => token.reading.keyword?.bind (·.piece? token.reading.fields)

/-- The pieces of tokens. -/
def piecesOf (tokens : List Token) : Multiset Piece := ↑(tokens.filterMap Token.piece?)

/-- The pieces that the entry adds, with its title if it has one. -/
def Entry.pieces : Entry → Multiset Piece
  | .newChapter _ _ => {.ofChapter, .ofText}
  | .newSection _ _ => {.ofSection, .ofText}
  | .leaf plain => {plain.piece}
  | .link _ => {.ofLink}
  | .openBranch kind _ => {kind.piece}
  | .closeBranch => 0

section Tokens

variable {token : Token} {keyword : Keyword} {fields : List String}

theorem Token.Reads.piece?_eq (reads : token.Reads keyword fields) :
    token.piece? = keyword.piece? fields := by
  simp [piece?, reads.isDirective, reads.keyword_eq, reads.fields_eq]

theorem Token.piece?_of_paragraph (isParagraph : token.kind = .paragraph) :
    token.piece? = some .ofText := by
  simp [piece?, isParagraph]

theorem piecesOf_cons (token : Token) (rest : List Token) :
    piecesOf (token :: rest) = ↑token.piece?.toList + piecesOf rest := by
  cases made : token.piece? <;> simp [piecesOf, made]

end Tokens

/-! ## The pieces of a growth -/

namespace Growth

/-- The pieces of a growth. -/
def pieces (growth : Growth) : Multiset Piece :=
  (↑(growth.body.map Leaf.piece) : Multiset Piece) + Element.piecesOf growth.elements +
    Multiset.replicate growth.links.length .ofLink + (growth.sections.map Section.pieces).sum +
      (growth.chapters.map Chapter.pieces).sum

variable {rest : List Entry}

theorem pieces_none : Growth.none.pieces = 0 := by
  simp [pieces, none, Element.piecesOf]

theorem pieces_leaf (inBranch : Bool) (leaf : Leaf) :
    (ofEntries inBranch (.leaf leaf :: rest)).pieces =
      {leaf.piece} + (ofEntries inBranch rest).pieces := by
  cases inBranch with
  | true =>
    simp only [pieces, ofEntries, if_true, List.map_cons, ← Multiset.cons_coe,
      ← Multiset.singleton_add, add_assoc]
  | false =>
    simp only [pieces, ofEntries, Bool.false_eq_true, if_false, Element.piecesOf, Element.pieces]
    ac_rfl

theorem pieces_link (inBranch : Bool) (link : Link) :
    (ofEntries inBranch (.link link :: rest)).pieces =
      {.ofLink} + (ofEntries inBranch rest).pieces := by
  simp only [pieces, ofEntries, List.length_cons, Multiset.replicate_succ,
    ← Multiset.singleton_add]
  ac_rfl

/-- What would go to the body of the open branch goes to that of the new one. -/
theorem pieces_openBranch (inBranch : Bool) (kind : BranchKind) (condition : String) :
    (ofEntries inBranch (.openBranch kind condition :: rest)).pieces =
      {kind.piece} + (ofEntries true rest).pieces := by
  simp only [pieces, ofEntries, Element.piecesOf, Element.pieces, Element.piecesOf_leaves,
    List.map_nil, Multiset.coe_nil]
  rw [zero_add]
  ac_rfl

theorem pieces_closeBranch (inBranch : Bool) (noBody : (ofEntries false rest).body = []) :
    (ofEntries inBranch (.closeBranch :: rest)).pieces = (ofEntries false rest).pieces := by
  simp only [pieces, ofEntries, noBody]

theorem pieces_newSection (inBranch : Bool) (id title : String) :
    (ofEntries inBranch (.newSection id title :: rest)).pieces =
      {.ofSection, .ofText} + (ofEntries inBranch rest).pieces := by
  simp only [pieces, ofEntries, Element.piecesOf, List.map_cons, List.sum_cons, Section.pieces,
    List.length_nil, Multiset.replicate_zero, add_zero]
  ac_rfl

theorem pieces_newChapter (inBranch : Bool) (id title : String)
    (noElements : (ofEntries inBranch rest).elements = [])
    (noLinks : (ofEntries inBranch rest).links = []) :
    (ofEntries inBranch (.newChapter id title :: rest)).pieces =
      {.ofChapter, .ofText} + (ofEntries inBranch rest).pieces := by
  simp only [pieces, ofEntries, noElements, noLinks, Element.piecesOf, List.map_cons,
    List.sum_cons, Chapter.pieces, List.map_nil, List.sum_nil, List.length_nil,
    Multiset.replicate_zero, add_zero]
  ac_rfl

end Growth

namespace Ledger

variable {mode : Mode} {ledger next last : Ledger} {token : Token} {entry : Option Entry}
  {tokens : List Token} {entries : List Entry}

/-! ## The balance of a run -/

/-- The pieces that have been read and are in no entry yet, or in none at all: the
heading that waits for its title, and those of the book. -/
def due (ledger : Ledger) : Multiset Piece :=
  ↑(ledger.pending.toList.map (·.heading.piece)) +
    (ledger.title.toList.map fun _ => {.ofBook, .ofText}).sum

/-- A book that waits for its title has none. -/
def Untitled (ledger : Ledger) : Prop :=
  ∀ token, ledger.pending = some ⟨.ofBook, token⟩ → ledger.title = none

theorem Moves.untitled (moves : Moves mode ledger token next entry) : next.Untitled := by
  intro opening waiting
  cases moves with
  | title => simp at waiting
  | openBook reads ready unbegun => exact unbegun
  | openChapter | openSection => cases waiting
  | paragraph isParagraph ready => exact absurd waiting (by simp [advance, ready])
  | _ takes => exact absurd waiting (by simp [advance, beginIf, beginElse, endIf, takes.ready])

/-- What adds an entry at once has nothing due before or after. -/
theorem balance_of_entry {entry : Entry} (ready : ledger.pending = none)
    (settled : next.pending = none) (same : next.title = ledger.title)
    (enters : ↑token.piece?.toList = entry.pieces) :
    ledger.due + ↑token.piece?.toList = ([entry].map Entry.pieces).sum + next.due := by
  rw [enters, due, due, ready, settled, same, List.map_singleton, List.sum_singleton, add_comm]

/-- A heading is due until its title comes. -/
theorem balance_of_heading {heading : Heading} (ready : ledger.pending = none)
    (opens : token.piece? = some heading.piece) :
    ledger.due + ↑token.piece?.toList =
      ((none : Option Entry).toList.map Entry.pieces).sum + (ledger.await heading token).due := by
  simp [due, ready, opens, await, add_comm]

/-- A title comes with its heading. -/
theorem balance_of_title {pending : Pending} (untitled : ledger.Untitled)
    (waiting : ledger.pending = some pending) (isText : token.piece? = some .ofText) :
    ledger.due + ↑token.piece?.toList =
      ((ledger.entitle pending.heading token.text).2.toList.map Entry.pieces).sum +
        (ledger.entitle pending.heading token.text).1.due := by
  obtain ⟨heading, opening⟩ := pending
  cases heading with
  | ofBook =>
    simp [due, entitle, waiting, untitled opening waiting, isText, Heading.piece]
  | ofChapter id | ofSection id =>
    simpa [due, entitle, waiting, isText, Heading.piece, Entry.pieces] using
      add_comm (ledger.title.toList.length • (Piece.ofBook ::ₘ {Piece.ofText})) {Piece.ofText}

/-- What is due and what is read is what is entered and what is due then. -/
theorem Moves.balance (untitled : ledger.Untitled) (moves : Moves mode ledger token next entry) :
    ledger.due + ↑token.piece?.toList = (entry.toList.map Entry.pieces).sum + next.due := by
  cases moves with
  | title waiting isParagraph =>
    exact balance_of_title untitled waiting (Token.piece?_of_paragraph isParagraph)
  | openBook reads ready => exact balance_of_heading ready reads.piece?_eq
  | openChapter takes | openSection takes => exact balance_of_heading takes.ready takes.piece?_eq
  | paragraph isParagraph ready =>
    exact balance_of_entry ready ready rfl (by rw [Token.piece?_of_paragraph isParagraph]; rfl)
  | addItem takes kept =>
    exact balance_of_entry takes.ready takes.ready rfl
      (by simp [takes.piece?_eq, Keyword.piece?, kept, Entry.pieces, Leaf.piece])
  | removeItem takes removed =>
    exact balance_of_entry takes.ready takes.ready rfl
      (by simp [takes.piece?_eq, Keyword.piece?, removed, Entry.pieces, Leaf.piece])
  | _ takes =>
    exact balance_of_entry takes.ready takes.ready rfl (by rw [takes.piece?_eq]; rfl)

/-- Nothing is lost between the tokens and the entries of a run. -/
theorem run_balance (untitled : ledger.Untitled)
    (ran : run mode ledger tokens = .ok (last, entries)) :
    ledger.due + piecesOf tokens = (entries.map Entry.pieces).sum + last.due := by
  induction tokens generalizing ledger entries with
  | nil =>
    cases ran
    simp [piecesOf]
  | cons token rest ih =>
    obtain ⟨next, entry, later, moves, onward, rfl⟩ := run_cons_eq_ok_iff.mp ran
    calc
      ledger.due + piecesOf (token :: rest) =
          ledger.due + ↑token.piece?.toList + piecesOf rest := by rw [piecesOf_cons, add_assoc]
      _ = (entry.toList.map Entry.pieces).sum + (next.due + piecesOf rest) := by
        rw [moves.balance untitled, add_assoc]
      _ = ((entry.toList ++ later).map Entry.pieces).sum + last.due := by
        rw [ih moves.untitled onward, List.map_append, List.sum_append, add_assoc]

/-! ## The growth of a run -/

/-- The growth has nothing for what the ledger does not have. -/
structure Fits (ledger : Ledger) (growth : Growth) : Prop where
  /-- Nothing for the body of a branch if none is open. -/
  body : ledger.branch = none → growth.body = []
  /-- Nothing for the elements of a section if none is current. -/
  elements : ledger.sectionId = none → growth.elements = []
  /-- Nothing for the links of a section if none is current. -/
  links : ledger.sectionId = none → growth.links = []
  /-- Nothing for a chapter if none is current. -/
  sections : ledger.chapterId = none → growth.sections = []

theorem Fits.leaf {later : List Entry} (inside : ledger.branch.isSome ∨ ledger.sectionId.isSome)
    (fits : ledger.Fits (.ofEntries ledger.branch.isSome later)) (leaf : Leaf) :
    ledger.Fits (.ofEntries ledger.branch.isSome (.leaf leaf :: later)) := by
  cases opened : ledger.branch with
  | some branch =>
    rw [opened] at fits
    exact ⟨by simp [opened], fits.elements, fits.links, fits.sections⟩
  | none =>
    rw [opened] at fits
    have inSection : ledger.sectionId ≠ none := by
      simpa [opened, Option.isSome_iff_ne_none] using inside
    exact ⟨fun _ => fits.body opened, fun absent => absurd absent inSection, fits.links,
      fits.sections⟩

theorem Fits.link {later : List Entry} (inSection : ledger.sectionId.isSome)
    (fits : ledger.Fits (.ofEntries ledger.branch.isSome later)) (link : Link) :
    ledger.Fits (.ofEntries ledger.branch.isSome (.link link :: later)) :=
  ⟨fits.body, fits.elements, fun absent => by simp [absent] at inSection, fits.sections⟩

/-- A growth with what a move adds fits if the rest of it fits then. -/
theorem Moves.fits (moves : Moves mode ledger token next entry) (nested : ledger.Nested)
    {later : List Entry} (fits : next.Fits (.ofEntries next.branch.isSome later)) :
    ledger.Fits (.ofEntries ledger.branch.isSome (entry.toList ++ later)) := by
  cases moves with
  | @title pending waiting isParagraph =>
    obtain ⟨heading, opening⟩ := pending
    cases heading with
    | ofBook => exact ⟨fits.body, fits.elements, fits.links, fits.sections⟩
    | ofChapter id => exact ⟨fits.body, fun _ => rfl, fun _ => rfl, fun _ => rfl⟩
    | ofSection id =>
      have inChapter := nested.waiting id opening waiting
      exact ⟨fits.body, fun _ => rfl, fun _ => rfl, fun absent => by simp [absent] at inChapter⟩
  | openBook | openChapter | openSection =>
    exact ⟨fits.body, fits.elements, fits.links, fits.sections⟩
  | paragraph isParagraph ready begun inside | state takes inside =>
    exact .leaf inside ⟨fits.body, fits.elements, fits.links, fits.sections⟩ _
  | addItem takes kept inSection | removeItem takes removed inSection =>
    exact .leaf (.inr inSection) ⟨fits.body, fits.elements, fits.links, fits.sections⟩ _
  | next takes inChapter inSection | jump takes inSection =>
    exact .link inSection ⟨fits.body, fits.elements, fits.links, fits.sections⟩ _
  | openIf takes closed inSection =>
    exact ⟨fun _ => rfl, fun absent => by simp [absent] at inSection, fits.links, fits.sections⟩
  | openElse takes isOpen single inSection =>
    have stillOpen : ledger.beginElse.branch.isSome = true := by simp [beginElse, isOpen]
    rw [show ledger.beginElse.advance.branch.isSome = true from stillOpen] at fits
    exact ⟨fun _ => rfl, fun absent => by simp [absent] at inSection, fits.links, fits.sections⟩
  | closeIf takes isOpen => exact ⟨fun _ => rfl, fits.elements, fits.links, fits.sections⟩

/-- A growth with what a move adds has the pieces of that besides. -/
theorem Moves.growth (moves : Moves mode ledger token next entry) {later : List Entry}
    (fits : next.Fits (.ofEntries next.branch.isSome later)) :
    (Growth.ofEntries ledger.branch.isSome (entry.toList ++ later)).pieces =
      (entry.toList.map Entry.pieces).sum + (Growth.ofEntries next.branch.isSome later).pieces := by
  cases moves with
  | @title pending waiting isParagraph =>
    obtain ⟨heading, opening⟩ := pending
    cases heading with
    | ofBook => exact (zero_add _).symm
    | ofChapter id => exact Growth.pieces_newChapter _ _ _ (fits.elements rfl) (fits.links rfl)
    | ofSection id => exact Growth.pieces_newSection _ _ _
  | openBook | openChapter | openSection => exact (zero_add _).symm
  | paragraph | state | addItem | removeItem => exact Growth.pieces_leaf _ _
  | next | jump => exact Growth.pieces_link _ _
  | openIf => exact Growth.pieces_openBranch _ _ _
  | openElse takes isOpen =>
    -- The alternative takes over what is open, so that the leaves after it are in a body.
    have stillOpen : ledger.beginElse.advance.branch.isSome = true := by
      simp [beginElse, advance, isOpen]
    rw [stillOpen]
    exact Growth.pieces_openBranch _ _ _
  | closeIf =>
    exact (Growth.pieces_closeBranch _ (fits.body rfl)).trans (zero_add _).symm

/-- The entries of a run fit, and nothing is lost between them and what they add. -/
theorem run_growth (nested : ledger.Nested) (ran : run mode ledger tokens = .ok (last, entries)) :
    ledger.Fits (.ofEntries ledger.branch.isSome entries) ∧
      (Growth.ofEntries ledger.branch.isSome entries).pieces = (entries.map Entry.pieces).sum := by
  induction tokens generalizing ledger entries with
  | nil =>
    cases ran
    exact ⟨⟨fun _ => rfl, fun _ => rfl, fun _ => rfl, fun _ => rfl⟩, Growth.pieces_none⟩
  | cons token rest ih =>
    obtain ⟨next, entry, later, moves, onward, rfl⟩ := run_cons_eq_ok_iff.mp ran
    obtain ⟨fits, grown⟩ := ih (moves.nested nested) onward
    refine ⟨moves.fits nested fits, ?_⟩
    rw [moves.growth fits, grown, List.map_append, List.sum_append]

end Ledger

variable {mode : Mode} {tokens : List Token} {book : Book}

/-- The pieces of a book are those of its tokens. -/
theorem pieces_of_parse (parsed : (parse mode tokens).result = .ok book) :
    book.pieces = piecesOf tokens := by
  rw [parse_eq_ledger_parse, Ledger.parse_eq_ok_iff] at parsed
  obtain ⟨last, entries, title, ran, ready, -, titled, rfl⟩ := parsed
  have balance : piecesOf tokens = (entries.map Entry.pieces).sum + {.ofBook, .ofText} := by
    have kept := Ledger.run_balance (by nofun) ran
    simpa [Ledger.due, Ledger.initial, ready, titled] using kept
  obtain ⟨fits, grown⟩ := Ledger.run_growth initial_nested ran
  have chapters : (Growth.ofEntries false entries).pieces =
      ((Growth.ofEntries false entries).chapters.map Chapter.pieces).sum := by
    have noBody : (Growth.ofEntries false entries).body = [] := fits.body rfl
    have noElements : (Growth.ofEntries false entries).elements = [] := fits.elements rfl
    have noLinks : (Growth.ofEntries false entries).links = [] := fits.links rfl
    have noSections : (Growth.ofEntries false entries).sections = [] := fits.sections rfl
    simp [Growth.pieces, noBody, noElements, noLinks, noSections, Element.piecesOf]
  calc
    (bookOfEntries title entries).pieces =
        {.ofBook, .ofText} + (Growth.ofEntries false entries).pieces := by rw [chapters]; rfl
    _ = {.ofBook, .ofText} + (entries.map Entry.pieces).sum := by rw [← grown]; rfl
    _ = piecesOf tokens := by rw [balance, add_comm]

/-! ## Counting tokens -/

/-- The token is such a piece, said by its directive. -/
def Token.isPiece (token : Token) : Piece → Bool
  | .ofBook => token.names .openBook
  | .ofChapter => token.names .openChapter
  | .ofSection => token.names .openSection
  | .ofText => token.isParagraph
  | .ofLink => token.names .next || token.names .jump
  | .ofState => token.names .state
  | .ofGain => token.names .item && !(token.reading.field? 0).any isRemove
  | .ofLoss => token.names .item && (token.reading.field? 0).any isRemove
  | .ofIf => token.names .openIf
  | .ofElse => token.names .openElse

theorem Token.piece?_eq_some_iff {token : Token} {piece : Piece} :
    token.piece? = some piece ↔ token.isPiece piece = true := by
  cases kind : token.kind with
  | paragraph =>
    cases piece <;> simp [piece?, isPiece, Token.names, Token.isParagraph, kind]
  | directive =>
    cases known : token.reading.keyword? with
    | none => cases piece <;> simp [piece?, isPiece, Token.names, Token.isParagraph, kind, known]
    | some keyword =>
      have reads : token.Reads keyword token.reading.fields := ⟨kind, known, rfl⟩
      have plain : token.isParagraph = false := by simp [Token.isParagraph, kind]
      rw [reads.piece?_eq]
      unfold Keyword.piece? isPiece
      simp only [reads.names_eq, plain, Directive.field?]
      generalize token.reading.fields[0]?.any isRemove = removes
      cases removes <;> cases keyword <;> cases piece <;> decide

theorem count_piecesOf (tokens : List Token) (piece : Piece) :
    (piecesOf tokens).count piece = tokens.countP (·.isPiece piece) := by
  rw [piecesOf, Multiset.coe_count, List.count_filterMap]
  refine List.countP_congr fun token _ => ?_
  rw [beq_iff_eq, Token.piece?_eq_some_iff]

/-- No token is two directives. -/
theorem countP_names_or {first second : Keyword} (different : first ≠ second) :
    tokens.countP (fun token => token.names first || token.names second) =
      tokens.countP (·.names first) + tokens.countP (·.names second) := by
  induction tokens with
  | nil => rfl
  | cons token rest ih =>
    have apart : token.names first = true → token.names second = false := by
      intro named
      simp only [Token.names, Bool.and_eq_true, decide_eq_true_eq] at named
      simp [Token.names, named, different]
    rw [List.countP_cons, List.countP_cons, List.countP_cons, ih]
    cases named : token.names first with
    | true => simp [apart named, add_right_comm]
    | false => simp [add_assoc]

/-- A book has as much of everything as the tokens that it is made from. -/
structure Census (tokens : List Token) (tally : Tally) : Prop where
  /-- Every chapter has its directive. -/
  chapters : tally.chapters = tokens.countP (·.names .openChapter)
  /-- Every section has its directive. -/
  sections : tally.sections = tokens.countP (·.names .openSection)
  /-- Every link has its directive, of one kind or the other. -/
  links : tally.links = tokens.countP (·.names .next) + tokens.countP (·.names .jump)
  /-- Every change of state has its directive. -/
  stateChanges : tally.elements.stateChanges = tokens.countP (·.names .state)
  /-- Every item lost has its directive. -/
  itemsRemoved : tally.elements.itemsRemoved =
    tokens.countP fun token => token.names .item && (token.reading.field? 0).any isRemove
  /-- Every item gained has its directive. -/
  itemsAdded : tally.elements.itemsAdded =
    tokens.countP fun token => token.names .item && !(token.reading.field? 0).any isRemove
  /-- Every branch has its directive. -/
  conditionals : tally.elements.conditionals = tokens.countP (·.names .openIf)
  /-- Every alternative has its directive. -/
  elseBranches : tally.elements.elseBranches = tokens.countP (·.names .openElse)
  /-- Every text has its paragraph, the titles included. -/
  paragraphs : tally.elements.paragraphs + 1 + tally.chapters + tally.sections =
    tokens.countP (·.isParagraph)

/-- The tally of a book is the census of its tokens. -/
theorem census_of_parse (parsed : (parse mode tokens).result = .ok book) :
    Census tokens book.tally := by
  have counts (piece : Piece) : book.tally.count piece = tokens.countP (·.isPiece piece) := by
    rw [← book.count_pieces, pieces_of_parse parsed, count_piecesOf]
  exact {
    chapters := counts .ofChapter
    sections := counts .ofSection
    links := (counts .ofLink).trans (countP_names_or (by decide))
    stateChanges := counts .ofState
    itemsRemoved := counts .ofLoss
    itemsAdded := counts .ofGain
    conditionals := counts .ofIf
    elseBranches := counts .ofElse
    paragraphs := counts .ofText }

/-- A script with a branch left open across two sections and one alternative more
than the strict mode allows. -/
def strewnScript : List Token :=
  [.directive "book" 1, .paragraph "T" 2, .directive "chapter c" 3, .paragraph "C" 4,
    .directive "section s" 5, .paragraph "S" 6, .directive "if x" 7, .directive "item Remove key" 8,
    .directive "section t" 9, .paragraph "U" 10, .paragraph "Still inside" 11,
    .directive "else" 12, .directive "item lamp" 13, .directive "else" 14, .directive "endif" 15,
    .directive "state door open" 16, .directive "> s Back" 17, .directive ">> c t Again" 18]

/-- The book of that script. -/
def strewnBook : Book :=
  ⟨"T", [⟨"c", "C",
    [⟨"s", "S",
      [.branch .ifBranch "x" [.leaf (.removeItem "key"), .leaf (.paragraph "Still inside")]], []⟩,
    ⟨"t", "U", [.branch .elseBranch "x" [.leaf (.addItem "lamp")], .branch .elseBranch "x" [],
      .leaf (.state "door" "open")], [⟨"Back", "c", "s"⟩, ⟨"Again", "c", "t"⟩]⟩]⟩]⟩

theorem parse_strewnScript : (parse .lenient strewnScript).result = .ok strewnBook := rfl

theorem census_strewnScript :
    (parse .lenient strewnScript).result = .ok strewnBook ∧
      Census strewnScript strewnBook.tally ∧
      strewnBook.tally = ⟨1, 2, 2, 0, ⟨1, 1, 1, 1, 1, 2⟩⟩ := by
  exact ⟨parse_strewnScript, census_of_parse parse_strewnScript, by decide⟩

end Gamebook.Script
