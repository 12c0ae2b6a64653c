import Gamebook.Proofs.Alternatives
import Gamebook.Proofs.Printout
import Mathlib.Data.List.TakeWhile

/-!
# The lines of an outline

The outline has an entry for the book, one for the number of chapters, and one for each chapter
and each section.  The last ones stand in the order of the script (`headings_of_parse`).  A heading
is read before its title, so it is due for one token, and every move keeps the headings that are
read, due and entered in order (`Ledger.Moves.headings`).

The entry of a section is one line, since its title is shown up to the first line end.  The titles
of the book and of chapters are shown in full.  A title is a paragraph, so their entries go over
as many lines as the titles do.  So there is one line for each entry exactly if these titles are
on one line each (`outline_by_line`).
-/

namespace Gamebook.Story

open Gamebook.Script

/-- The headings of the chapter and of its sections, in order. -/
def Chapter.headings (chapter : Chapter) : List Heading :=
  .ofChapter chapter.id :: chapter.sections.map fun here => .ofSection here.id

/-- The headings of all chapters and sections, in order. -/
def Book.headings (book : Book) : List Heading := book.chapters.flatMap Chapter.headings

end Gamebook.Story

namespace Gamebook.Script

open Gamebook.Cli Gamebook.Report Gamebook.Story

/-! ## Headings in the order of the script -/

/-- The heading of a chapter or section that the directive is. -/
def Directive.heading? (directive : Directive) : Option Heading :=
  match directive.keyword? with
  | some .openChapter => (directive.field? 0).map .ofChapter
  | some .openSection => (directive.field? 0).map .ofSection
  | _ => none

/-- The heading of a chapter or section that the token is. -/
def Token.heading? (token : Token) : Option Heading :=
  match token.kind with
  | .paragraph => none
  | .directive => token.reading.heading?

/-- The heading that the entry adds. -/
def Entry.heading? : Entry → Option Heading
  | .newChapter id _ => some (.ofChapter id)
  | .newSection id _ => some (.ofSection id)
  | _ => none

/-- The heading that will be entered with its title. -/
def Heading.due : Heading → Option Heading
  | .ofBook => none
  | heading => some heading

/-- The headings of chapters and sections that the growth adds, in order. -/
def Growth.headings (growth : Growth) : List Heading :=
  growth.sections.map (fun here => .ofSection here.id) ++ growth.chapters.flatMap Chapter.headings

theorem Growth.headings_ofEntries (inBranch : Bool) (entries : List Entry) :
    (ofEntries inBranch entries).headings = entries.filterMap Entry.heading? := by
  induction entries generalizing inBranch with
  | nil => rfl
  | cons entry rest ih =>
    cases entry with
    | leaf leaf => cases inBranch <;> exact ih _
    | link link => exact ih inBranch
    | openBranch kind condition => exact ih true
    | closeBranch => exact ih false
    | newSection id title => exact congrArg (Heading.ofSection id :: ·) (ih inBranch)
    | newChapter id title => exact congrArg (Heading.ofChapter id :: ·) (ih inBranch)

section

variable {token : Token} {keyword : Keyword} {fields : List String}

theorem Token.heading?_of_paragraph (isParagraph : token.kind = .paragraph) :
    token.heading? = none := by
  simp only [heading?, isParagraph]

theorem Token.Reads.heading?_eq (reads : token.Reads keyword fields) :
    token.heading? = match keyword with
      | .openChapter => fields[0]?.map .ofChapter
      | .openSection => fields[0]?.map .ofSection
      | _ => none := by
  simp only [heading?, reads.isDirective, Directive.heading?, reads.keyword_eq, Directive.field?,
    reads.fields_eq]
  cases keyword <;> rfl

end

namespace Ledger

variable {mode : Mode} {ledger next last : Ledger} {token : Token} {entry : Option Entry}
  {tokens : List Token} {entries : List Entry}

/-- The heading of a chapter or section whose title is to come. -/
def dueHeading (ledger : Ledger) : Option Heading :=
  ledger.pending.bind fun pending => pending.heading.due

theorem dueHeading_of_ready (ready : ledger.pending = none) : ledger.dueHeading = none := by
  rw [dueHeading, ready, Option.bind_none]

/-- Headings are due when they have been read, and entered when they have been due. -/
theorem Moves.headings (moves : Moves mode ledger token next entry) :
    ledger.dueHeading.toList ++ token.heading?.toList =
      (entry.bind Entry.heading?).toList ++ next.dueHeading.toList := by
  cases moves with
  | @title pending waiting isParagraph =>
    obtain ⟨heading, opening⟩ := pending
    rw [Token.heading?_of_paragraph isParagraph, dueHeading, waiting]
    cases heading <;> rfl
  | openBook reads ready =>
    rw [reads.heading?_eq, dueHeading_of_ready ready]
    rfl
  | openChapter takes | openSection takes =>
    rw [takes.heading?_eq, dueHeading_of_ready takes.ready]
    rfl
  | paragraph isParagraph ready =>
    rw [Token.heading?_of_paragraph isParagraph, dueHeading_of_ready ready]
    exact congrArg Option.toList (dueHeading_of_ready ready).symm
  | _ takes =>
    rw [takes.heading?_eq, dueHeading_of_ready takes.ready]
    exact congrArg Option.toList (dueHeading_of_ready takes.ready).symm

/-- The headings of the tokens are entered in order. -/
theorem run_headings (ran : run mode ledger tokens = .ok (last, entries)) :
    ledger.dueHeading.toList ++ tokens.filterMap Token.heading? =
      entries.filterMap Entry.heading? ++ last.dueHeading.toList := by
  induction tokens generalizing ledger entries with
  | nil =>
    cases ran
    simp
  | cons token rest ih =>
    obtain ⟨next, entry, later, moves, onward, rfl⟩ := run_cons_eq_ok_iff.mp ran
    have read : (token :: rest).filterMap Token.heading? =
        token.heading?.toList ++ rest.filterMap Token.heading? := by
      cases heading : token.heading? <;> simp [heading]
    have entered : entry.toList.filterMap Entry.heading? =
        (entry.bind Entry.heading?).toList := by
      cases entry with
      | none => rfl
      | some made => cases heading : made.heading? <;> simp [heading]
    rw [read, List.filterMap_append, entered, ← List.append_assoc, moves.headings,
      List.append_assoc, ih onward, List.append_assoc]

end Ledger

/-- The chapters and sections of a book stand in the order of the script. -/
theorem headings_of_parse {mode : Mode} {tokens : List Token} {book : Book}
    (parsed : (parse mode tokens).result = .ok book) :
    book.headings = tokens.filterMap Token.heading? := by
  rw [parse_eq_ledger_parse, Ledger.parse_eq_ok_iff] at parsed
  obtain ⟨last, entries, title, ran, ready, -, -, rfl⟩ := parsed
  obtain ⟨fits, -⟩ := Ledger.run_growth initial_nested ran
  have noSections : (Growth.ofEntries false entries).sections = [] := fits.sections rfl
  have entered := Growth.headings_ofEntries false entries
  have inOrder := Ledger.run_headings ran
  rw [Growth.headings, noSections, List.map_nil, List.nil_append] at entered
  rw [Ledger.dueHeading_of_ready rfl, Ledger.dueHeading_of_ready ready, Option.toList_none,
    List.nil_append, List.append_nil] at inOrder
  exact entered.trans inOrder.symm

end Gamebook.Script

namespace Gamebook.Report

open Gamebook.Cli Gamebook.Script Gamebook.Story

theorem oneLine_firstLine (text : String) : OneLine (firstLine text) := by
  unfold firstLine
  split
  case h_1 whole =>
    intro inside
    simpa using List.dropWhile_eq_nil_iff.mp whole '\n' inside
  case h_2 =>
    rw [OneLine, String.toList_ofList]
    intro inside
    simpa using List.mem_takeWhile_imp (LineReader.mem_of_mem_dropReturn inside)

namespace Outline

/-! ## Entries -/

/-- The entry of a chapter without those of its sections. -/
def chapterEntry (chapter : Chapter) : String :=
  "  [" ++ chapter.id ++ "] " ++ chapter.title ++ " (" ++ chapter.sections.length.repr ++
    " sections)"

/-- The titles that are shown in full. -/
def fullTitles (book : Book) : List String := book.title :: book.chapters.map (·.title)

/-- The entry is one of a chapter or section with this heading. -/
inductive Announces : Heading → String → Prop where
  /-- The id of a chapter stands two spaces in. -/
  | chapter (id rest : String) : Announces (.ofChapter id) ("  [" ++ id ++ "] " ++ rest)
  /-- The id of a section stands four spaces in. -/
  | section (id rest : String) : Announces (.ofSection id) ("    [" ++ id ++ "] " ++ rest)

theorem ofChapter_eq (chapter : Chapter) :
    ofChapter chapter = chapterEntry chapter :: chapter.sections.map ofSection := rfl

theorem announces_chapterEntry (chapter : Chapter) :
    Announces (.ofChapter chapter.id) (chapterEntry chapter) := by
  have shape : chapterEntry chapter = "  [" ++ chapter.id ++ "] " ++
      (chapter.title ++ " (" ++ chapter.sections.length.repr ++ " sections)") := by
    unfold chapterEntry
    simp only [String.append_assoc]
  rw [shape]
  exact .chapter _ _

theorem announces_ofSection (here : Section) :
    Announces (.ofSection here.id) (ofSection here) := by
  have shape : ofSection here = "    [" ++ here.id ++ "] " ++
      (firstLine here.title ++ " (" ++ here.elements.length.repr ++ " elements, " ++
        here.links.length.repr ++ " links)") := by
    unfold ofSection
    simp only [String.append_assoc]
  rw [shape]
  exact .section _ _

/-- The entries of chapters and sections are in the order of the headings. -/
theorem forall₂_announces (book : Book) :
    List.Forall₂ Announces book.headings (book.chapters.flatMap ofChapter) := by
  rw [Book.headings]
  induction book.chapters with
  | nil => exact .nil
  | cons chapter rest ih =>
    have sections : List.Forall₂ Announces
        (chapter.sections.map fun here => .ofSection here.id) (chapter.sections.map ofSection) := by
      rw [List.forall₂_map_left_iff, List.forall₂_map_right_iff, List.forall₂_same]
      exact fun here _ => announces_ofSection here
    exact List.rel_append (.cons (announces_chapterEntry chapter) sections) ih

theorem length_flatMap_ofChapter (chapters : List Chapter) :
    (chapters.flatMap ofChapter).length =
      chapters.length + (chapters.flatMap (·.sections)).length := by
  induction chapters with
  | nil => rfl
  | cons chapter rest ih =>
    simp only [List.flatMap_cons, List.length_append, ih, ofChapter_eq, List.length_cons,
      List.length_map]
    omega

theorem length_ofBook (book : Book) :
    (ofBook book).length = 2 + book.chapters.length + book.sections.length := by
  have sections := congrArg List.length book.sections_map_snd
  rw [List.length_map] at sections
  rw [ofBook, List.length_cons, List.length_cons, length_flatMap_ofChapter, ← sections]
  omega

/-! ## Newlines in entries -/

theorem newlines_chapterEntry {chapter : Chapter} (oneLine : OneLine chapter.id) :
    newlines (chapterEntry chapter) = newlines chapter.title := by
  have fixed : newlines "  [" = 0 ∧ newlines "] " = 0 ∧ newlines " (" = 0 ∧
      newlines " sections)" = 0 := by decide
  have id := newlines_eq_zero_iff.mpr oneLine
  have count := newlines_eq_zero_iff.mpr (oneLine_repr chapter.sections.length)
  unfold chapterEntry
  simp only [newlines_append, fixed, id, count, Nat.zero_add, Nat.add_zero]

/-- Only the first line of the title of a section is shown. -/
theorem oneLine_ofSection {here : Section} (oneLine : OneLine here.id) :
    OneLine (ofSection here) := by
  unfold ofSection
  simp only [oneLine_append, oneLine, oneLine_firstLine, oneLine_repr]
  decide

theorem newlines_ofChapter {chapter : Chapter} (named : chapter.Named LineWord) :
    newlines (String.join (ofChapter chapter)) = newlines chapter.title := by
  have sections : ∀ entry ∈ chapter.sections.map ofSection, OneLine entry :=
    List.forall_mem_map.mpr fun here isSection =>
      oneLine_ofSection (named.sections here isSection).id.2
  rw [ofChapter_eq, newlines_join_cons, newlines_chapterEntry named.id.2,
    newlines_join_eq_zero_iff.mpr sections, Nat.add_zero]

theorem newlines_flatMap_ofChapter {chapters : List Chapter}
    (named : ∀ chapter ∈ chapters, chapter.Named LineWord) :
    newlines (String.join (chapters.flatMap ofChapter)) =
      newlines (String.join (chapters.map (·.title))) := by
  induction chapters with
  | nil => rfl
  | cons chapter rest ih =>
    obtain ⟨first, others⟩ := List.forall_mem_cons.mp named
    rw [List.flatMap_cons, String.join_append, newlines_append, newlines_ofChapter first,
      ih others, List.map_cons, newlines_join_cons]

/-- The newlines in the entries are those of the titles that are shown in full. -/
theorem newlines_ofBook {book : Book}
    (named : ∀ chapter ∈ book.chapters, chapter.Named LineWord) :
    newlines (String.join (ofBook book)) = newlines (String.join (fullTitles book)) := by
  have fixed : newlines "Book: " = 0 ∧ newlines "Chapters: " = 0 := by decide
  have count := newlines_eq_zero_iff.mpr (oneLine_repr book.chapters.length)
  rw [ofBook, fullTitles, newlines_join_cons, newlines_join_cons,
    newlines_flatMap_ofChapter named, newlines_join_cons]
  simp only [newlines_append, fixed, count, Nat.zero_add]

end Outline

end Gamebook.Report

namespace Gamebook.Cli

open Gamebook.Report Gamebook.Script Gamebook.Story

/-! ## What is printed -/

/-- The text outlines the book, with its chapters and sections in the order of the headings. -/
structure Outlines (text : String) (headings : List Heading) (book : Book) : Prop where
  /-- Nothing but the lines of the entries is printed. -/
  lines : ConsistsOf text ((Outline.ofBook book).flatMap entryLines)
  /-- The entries are one for the book, one for the number of its chapters, and one for each
  heading, in order. -/
  entries : ∃ announced, Outline.ofBook book = ("Book: " ++ book.title) ::
    ("Chapters: " ++ book.chapters.length.repr) :: announced ∧
      List.Forall₂ Outline.Announces headings announced
  /-- The entry of a section is one line. -/
  sections : ∀ placed ∈ book.sections, OneLine (Outline.ofSection placed.2)
  /-- There is a line for each entry and for each newline in a title that is shown in full. -/
  length : (lineTexts text.toList).length = 2 + book.chapters.length + book.sections.length +
    newlines (String.join (Outline.fullTitles book))
  /-- All entries are one line exactly if these titles are. -/
  single : (lineTexts text.toList).length = 2 + book.chapters.length + book.sections.length ↔
    ∀ title ∈ Outline.fullTitles book, OneLine title

theorem outlines_of_named {book : Book}
    (named : ∀ chapter ∈ book.chapters, chapter.Named LineWord) :
    Outlines (unlines (Outline.ofBook book)) book.headings book := by
  have lines := consistsOf_unlines (Outline.ofBook book)
  have length : (lineTexts (unlines (Outline.ofBook book)).toList).length =
      2 + book.chapters.length + book.sections.length +
        newlines (String.join (Outline.fullTitles book)) := by
    rw [lines.lineTexts_eq, List.length_map, length_flatMap_entryLines, Outline.length_ofBook,
      Outline.newlines_ofBook named]
  refine ⟨lines, ⟨_, rfl, Outline.forall₂_announces book⟩, ?_, length, ?_⟩
  · intro placed isPlaced
    obtain ⟨chapter, isChapter, inChapter⟩ := List.mem_flatMap.mp isPlaced
    obtain ⟨here, isSection, rfl⟩ := List.mem_map.mp inChapter
    exact Outline.oneLine_ofSection ((named chapter isChapter).sections here isSection).id.2
  · rw [length, ← newlines_join_eq_zero_iff]
    omega

/-- The outline that `parse` prints has one line for each of its entries but for the line ends in
the titles of the book and of its chapters. -/
theorem outline_by_line (path : String) {lenient : Bool} {marker : Marker} {script : String}
    {book : Book}
    (parsed : (parse (if lenient then .lenient else .strict) (tokens marker script)).result =
      .ok book) :
    Outlines (outputs path (.ok script.toUTF8) lenient marker .parse false false).stdout
      ((tokens marker script).filterMap Token.heading?) book := by
  have yields := yields_toUTF8 lenient marker script
  rw [parsed] at yields
  obtain ⟨text, textParsed, output⟩ := yields.exists_outputs path
  have named := named_of_parse (fun _ isToken => bears_of_mem_tokens isToken) parsed
  have ran : runText .parse ⟨false, false, lenient, marker⟩ text =
      .success (Outline.ofBook book) [] := by
    simp only [runText, Options.mode, textParsed]
    rfl
  rw [output, ran, ← headings_of_parse parsed]
  exact outlines_of_named named

/-- A script whose titles have two lines each. -/
def longTitles : String := "// book\nA\nB\n\n// chapter c\nC\nD\n\n// section s\nE\nF\n"

/-- The book of that script. -/
def longTitledBook : Book := ⟨"A\nB", [⟨"c", "C\nD", [⟨"s", "E\nF", [], []⟩]⟩]⟩

theorem parse_longTitles :
    (parse .strict (tokens .standard longTitles)).result = .ok longTitledBook := by
  decide +kernel

theorem stdout_longTitles :
    (outputs "tale" (.ok longTitles.toUTF8) false .standard .parse false false).stdout =
      "Book: A\nB\nChapters: 1\n  [c] C\nD (1 sections)\n    [s] E (0 elements, 0 links)\n" := by
  decide +kernel

theorem outline_of_longTitles :
    Outlines (outputs "tale" (.ok longTitles.toUTF8) false .standard .parse false false).stdout
      [.ofChapter "c", .ofSection "s"] longTitledBook := by
  have headings : (tokens .standard longTitles).filterMap Token.heading? =
      [.ofChapter "c", .ofSection "s"] := by decide +kernel
  rw [← headings]
  exact @outline_by_line "tale" false .standard longTitles longTitledBook parse_longTitles

/-- The outline has two lines more than entries, since it shows two titles in full. -/
theorem outline_exceeds_entries :
    (parse .strict (tokens .standard longTitles)).result = .ok longTitledBook ∧
      (lineTexts (outputs "tale" (.ok longTitles.toUTF8) false .standard .parse false
        false).stdout.toList).length = 6 ∧
      2 + longTitledBook.chapters.length + longTitledBook.sections.length = 4 := by
  rw [stdout_longTitles]
  exact ⟨parse_longTitles, by decide +kernel, by decide⟩

end Gamebook.Cli
