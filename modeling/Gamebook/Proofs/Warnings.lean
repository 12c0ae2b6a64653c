import Gamebook.Proofs.Printing
import Gamebook.Proofs.Simulation
import Gamebook.Report.Verdict

/-!
# Warnings are lines

The ids and links of a book are made of the words of its directives, in both modes
(`named_of_parse`).  The words of a directive that was scanned have no newline.  So the
description of a link in a book that was parsed from a script has none either, and a
warning is one line (`newline_not_mem_describe`).

The words are followed from the tokens to the entries, move by move, and from the
entries to the book.
-/

namespace Gamebook.Story

section Named

variable (Word : String → Prop)

/-- The id and the links are made of such words. -/
structure Section.Named (here : Section) : Prop where
  /-- The id is a word. -/
  id : Word here.id
  /-- The links are made of words. -/
  links : ∀ link ∈ here.links, link.MadeOf Word

/-- The ids and the links are made of such words. -/
structure Chapter.Named (chapter : Chapter) : Prop where
  /-- The id is a word. -/
  id : Word chapter.id
  /-- The sections are made of words. -/
  sections : ∀ here ∈ chapter.sections, here.Named Word

/-- The link and the ids of where it is declared are made of such words. -/
structure PlacedLink.Named (placed : PlacedLink) : Prop where
  /-- The id of the chapter is a word. -/
  chapterId : Word placed.chapterId
  /-- The id of the section is a word. -/
  sectionId : Word placed.sectionId
  /-- The link is made of words. -/
  link : placed.link.MadeOf Word

end Named

variable {Word : String → Prop}

theorem Book.named_links {book : Book} (named : ∀ chapter ∈ book.chapters, chapter.Named Word) :
    ∀ placed ∈ book.links, placed.Named Word := by
  intro placed mem
  obtain ⟨⟨chapter, here⟩, inBook, inSection⟩ := List.mem_flatMap.mp mem
  obtain ⟨link, isLink, rfl⟩ := List.mem_map.mp inSection
  obtain ⟨other, isChapter, inChapter⟩ := List.mem_flatMap.mp inBook
  obtain ⟨_, isSection, made⟩ := List.mem_map.mp inChapter
  cases made
  have chapterNamed := named chapter isChapter
  have sectionNamed := chapterNamed.sections here isSection
  exact ⟨chapterNamed.id, sectionNamed.id, sectionNamed.links link isLink⟩

end Gamebook.Story

namespace Gamebook.Script

open Gamebook.Story

section Entries

variable (Word : String → Prop)

/-- The ids and links of the entry are made of such words. -/
def Entry.Named : Entry → Prop
  | .newChapter id _ | .newSection id _ => Word id
  | .link given => given.MadeOf Word
  | .leaf _ | .openBranch _ _ | .closeBranch => True

/-- The ids and links of the growth are made of such words. -/
structure Growth.Named (growth : Growth) : Prop where
  /-- The links are made of words. -/
  links : ∀ link ∈ growth.links, link.MadeOf Word
  /-- The sections are made of words. -/
  sections : ∀ here ∈ growth.sections, here.Named Word
  /-- The chapters are made of words. -/
  chapters : ∀ chapter ∈ growth.chapters, chapter.Named Word

/-- The id of the heading is such a word. -/
def Heading.Named : Heading → Prop
  | .ofBook => True
  | .ofChapter id | .ofSection id => Word id

/-- The ids that the ledger keeps for later are such words. -/
structure Ledger.Named (ledger : Ledger) : Prop where
  /-- The id of the current chapter is a word. -/
  chapterId : ∀ id, ledger.chapterId = some id → Word id
  /-- The id of the heading that waits for its title is a word. -/
  pending : ∀ pending, ledger.pending = some pending → pending.heading.Named Word

end Entries

variable {Word Text : String → Prop}

theorem Growth.named_ofEntries {entries : List Entry} (named : ∀ entry ∈ entries, entry.Named Word)
    (inBranch : Bool) : (ofEntries inBranch entries).Named Word := by
  induction entries generalizing inBranch with
  | nil => exact ⟨nofun, nofun, nofun⟩
  | cons entry rest ih =>
    obtain ⟨isNamed, others⟩ := List.forall_mem_cons.mp named
    obtain ⟨links, sections, chapters⟩ := ih others inBranch
    cases entry with
    | newChapter id title =>
      exact ⟨nofun, nofun, List.forall_mem_cons.mpr ⟨⟨isNamed, sections⟩, chapters⟩⟩
    | newSection id title =>
      exact ⟨nofun, List.forall_mem_cons.mpr ⟨⟨isNamed, links⟩, sections⟩, chapters⟩
    | leaf leaf => cases inBranch <;> exact ⟨links, sections, chapters⟩
    | link link => exact ⟨List.forall_mem_cons.mpr ⟨isNamed, links⟩, sections, chapters⟩
    | openBranch kind condition =>
      obtain ⟨links, sections, chapters⟩ := ih others true
      exact ⟨links, sections, chapters⟩
    | closeBranch =>
      obtain ⟨links, sections, chapters⟩ := ih others false
      exact ⟨links, sections, chapters⟩

namespace Ledger

variable {mode : Mode} {ledger next last : Ledger} {token : Token} {entry : Option Entry}
  {tokens : List Token} {entries : List Entry}

/-- What a move enters and what it keeps is made of the words of its token and of what was kept. -/
theorem Moves.named (moves : Moves mode ledger token next entry) (bears : token.Bears Word Text)
    (named : ledger.Named Word) : next.Named Word ∧ ∀ made ∈ entry, made.Named Word := by
  cases moves with
  | @title pending waiting isParagraph =>
    have isNamed := named.pending pending waiting
    obtain ⟨heading, opening⟩ := pending
    cases heading with
    | ofBook => exact ⟨⟨named.chapterId, nofun⟩, nofun⟩
    | ofChapter id =>
      exact ⟨⟨by rintro _ ⟨⟩; exact isNamed, nofun⟩, forall_mem_some isNamed⟩
    | ofSection id => exact ⟨⟨named.chapterId, nofun⟩, forall_mem_some isNamed⟩
  | openBook => exact ⟨⟨named.chapterId, by rintro _ ⟨⟩; trivial⟩, nofun⟩
  | openChapter takes | openSection takes =>
    have isWord := bears.words _ _ takes.toReads _ (.head _)
    exact ⟨⟨named.chapterId, by rintro _ ⟨⟩; exact isWord⟩, nofun⟩
  | next takes inChapter =>
    have isWord := named.chapterId _ inChapter
    exact ⟨⟨named.chapterId, named.pending⟩,
      forall_mem_some ((DerivesLink.next takes.toReads).madeOf isWord bears)⟩
  | jump takes =>
    have isWord := bears.words _ _ takes.toReads _ (.head _)
    exact ⟨⟨named.chapterId, named.pending⟩,
      forall_mem_some ((DerivesLink.jump takes.toReads).madeOf isWord bears)⟩
  | _ => exact ⟨⟨named.chapterId, named.pending⟩, forall_mem_some trivial⟩

end Ledger

/-- The ids and links of a book are made of the words of its tokens. -/
theorem named_of_parse {mode : Mode} {tokens : List Token} {book : Book}
    (bears : ∀ token ∈ tokens, token.Bears Word Text)
    (parsed : (parse mode tokens).result = .ok book) :
    ∀ chapter ∈ book.chapters, chapter.Named Word := by
  rw [parse_eq_ledger_parse, Ledger.parse_eq_ok_iff] at parsed
  obtain ⟨last, entries, title, ran, -, -, -, rfl⟩ := parsed
  have initial : Ledger.initial.Named Word := ⟨nofun, nofun⟩
  have entered := (Ledger.run_forall Ledger.Moves.named bears initial ran).2
  exact (Growth.named_ofEntries entered false).chapters

/-! ## Lines -/

theorem newline_not_mem_of_isPhrase {text : String} (phrase : IsPhrase LineWord text) :
    '\n' ∉ text.toList := by
  obtain ⟨ws, areWords, rfl⟩ := phrase
  intro inside
  rw [String.toList_intercalate] at inside
  rcases Text.mem_joinWords inside with isSpace | ⟨word, isMember, inWord⟩
  · cases isSpace
  · obtain ⟨field, isField, rfl⟩ := List.mem_map.mp isMember
    exact (areWords field isField).2 inWord

/-- A link of a book that was parsed from a script is described on one line. -/
theorem newline_not_mem_describe {mode : Mode} {marker : Marker} {script : String} {book : Book}
    (parsed : (parseText mode marker script).result = .ok book) :
    ∀ placed ∈ book.links, '\n' ∉ (Report.Verdict.describe placed).toList := by
  intro placed mem
  have named := Book.named_links
    (named_of_parse (fun _ isToken => bears_of_mem_tokens isToken) parsed) placed mem
  have title := newline_not_mem_of_isPhrase named.link.title
  simp [Report.Verdict.describe, quoted, title, named.chapterId.2, named.sectionId.2,
    named.link.chapterId.2, named.link.sectionId.2]

end Gamebook.Script
