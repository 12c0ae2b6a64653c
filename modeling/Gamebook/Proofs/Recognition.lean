import Gamebook.Proofs.Simulation
import Gamebook.Proofs.Stages

/-!
# Strict parsing and the grammar

A strict parse accepts what the grammar derives, and the book is the tree of the
derivation (`DerivesBook.of_parse`, `DerivesBook.parse_eq`).

Both directions go through `Continues`.  What can follow at a stage completes the
part of the script that the stage is in and then derives what comes after it:
this is `Completes`, and it is shown token by token.  Conversely a derived part
can stand in front of whatever can follow after it.
-/

namespace Gamebook.Script

open Gamebook.Story

/-! ## From tokens to derivations -/

/-- Sections of this chapter, then chapters. -/
def SectionsFollow (chapterId : String) (tokens : List Token) (sections : List Section)
    (chapters : List Chapter) : Prop :=
  ∃ inner rest, tokens = inner ++ rest ∧ Many (DerivesSection chapterId) inner sections ∧
    Many DerivesChapter rest chapters

/-- Items, then sections of this chapter, then chapters. -/
def ItemsFollow (chapterId : String) (tokens : List Token) (elements : List Element)
    (links : List Link) (sections : List Section) (chapters : List Chapter) : Prop :=
  ∃ inner rest, tokens = inner ++ rest ∧ DerivesItems chapterId inner elements links ∧
    SectionsFollow chapterId rest sections chapters

/-- The rest of a branch and possibly its alternative, then items and so on. -/
inductive BranchFollows (chapterId condition : String) : Bool → List Token → List Leaf →
    List Element → List Link → List Section → List Chapter → Prop where
  /-- The branch ends. -/
  | close {hasElse : Bool} {inner rest : List Token} {closing : Token} {surplus : List String}
      {leaves : List Leaf} {elements : List Element} {links more : List Link}
      {sections : List Section} {chapters : List Chapter}
      (body : DerivesBody chapterId inner leaves links) (closes : closing.Reads .closeIf surplus)
      (items : ItemsFollow chapterId rest elements more sections chapters) :
      BranchFollows chapterId condition hasElse (inner ++ closing :: rest) leaves elements
        (links ++ more) sections chapters
  /-- The alternative begins. -/
  | turn {inner rest : List Token} {turning : Token} {surplus : List String}
      {leaves leaves' : List Leaf} {elements : List Element} {links more : List Link}
      {sections : List Section} {chapters : List Chapter}
      (body : DerivesBody chapterId inner leaves links) (turns : turning.Reads .openElse surplus)
      (alternative : BranchFollows chapterId condition true rest leaves' elements more sections
        chapters) :
      BranchFollows chapterId condition false (inner ++ turning :: rest) leaves
        (.branch .elseBranch condition (leaves'.map .leaf) :: elements) (links ++ more) sections
        chapters

/-- The tokens derive what the stage still lacks, and then more up to the end. -/
def Completes : Stage → List Token → Growth → Prop
  | .book, tokens, growth => Many DerivesChapter tokens growth.chapters
  | .chapterTitle id, tokens, growth => growth.elements = [] ∧ growth.links = [] ∧
      growth.sections = [] ∧ ∃ title rest sections chapters, tokens = title :: rest ∧
        title.kind = .paragraph ∧ growth.chapters = ⟨id, title.text, sections⟩ :: chapters ∧
        SectionsFollow id rest sections chapters
  | .chapter chapterId, tokens, growth =>
      SectionsFollow chapterId tokens growth.sections growth.chapters
  | .sectionTitle chapterId id, tokens, growth => growth.elements = [] ∧ growth.links = [] ∧
      ∃ title rest elements links sections, tokens = title :: rest ∧ title.kind = .paragraph ∧
        growth.sections = ⟨id, title.text, elements, links⟩ :: sections ∧
        ItemsFollow chapterId rest elements links sections growth.chapters
  | .inSection chapterId, tokens, growth =>
      ItemsFollow chapterId tokens growth.elements growth.links growth.sections growth.chapters
  | .inBranch chapterId condition hasElse, tokens, growth =>
      BranchFollows chapterId condition hasElse tokens growth.body growth.elements growth.links
        growth.sections growth.chapters

section Following

variable {chapterId condition id : String} {opening title : Token} {surplus : List String}
  {first rest : List Token} {leaves : List Leaf} {given elements : List Element}
  {links more : List Link} {sections : List Section} {chapters : List Chapter}

theorem SectionsFollow.of_chapters (later : Many DerivesChapter rest chapters) :
    SectionsFollow chapterId rest [] chapters :=
  ⟨[], rest, rfl, .nil, later⟩

theorem ItemsFollow.of_sections (later : SectionsFollow chapterId rest sections chapters) :
    ItemsFollow chapterId rest [] [] sections chapters :=
  ⟨[], rest, rfl, .nil, later⟩

/-- A heading and a title in front of sections make a chapter of them. -/
theorem SectionsFollow.chapter (opens : opening.Reads .openChapter (id :: surplus))
    (titles : title.kind = .paragraph) (later : SectionsFollow id rest sections chapters) :
    Many DerivesChapter (opening :: title :: rest) (⟨id, title.text, sections⟩ :: chapters) := by
  obtain ⟨inner, after, rfl, holds, others⟩ := later
  exact .cons (.mk opens titles holds) others

/-- A heading and a title in front of items make a section of them. -/
theorem ItemsFollow.section (opens : opening.Reads .openSection (id :: surplus))
    (titles : title.kind = .paragraph)
    (later : ItemsFollow chapterId rest elements links sections chapters) :
    SectionsFollow chapterId (opening :: title :: rest)
      (⟨id, title.text, elements, links⟩ :: sections) chapters := by
  obtain ⟨inner, after, rfl, items, others, chaptersAfter, rfl, holds, beyond⟩ := later
  refine ⟨opening :: title :: inner ++ others, chaptersAfter, by simp, ?_, beyond⟩
  exact .cons (.mk opens titles items) holds

/-- An item goes in front of the items that follow. -/
theorem ItemsFollow.item (part : DerivesItem chapterId first given more)
    (later : ItemsFollow chapterId rest elements links sections chapters) :
    ItemsFollow chapterId (first ++ rest) (given ++ elements) (more ++ links) sections
      chapters := by
  obtain ⟨inner, after, rfl, items, others⟩ := later
  exact ⟨first ++ inner, after, by simp, .cons part items, others⟩

/-- A piece of a branch goes in front of the rest of the branch. -/
theorem BranchFollows.piece {hasElse : Bool} {pieces : List Leaf}
    (part : DerivesPiece chapterId first pieces more)
    (later : BranchFollows chapterId condition hasElse rest leaves elements links sections
      chapters) :
    BranchFollows chapterId condition hasElse (first ++ rest) (pieces ++ leaves) elements
      (more ++ links) sections chapters := by
  cases later with
  | close body closes items =>
    rw [← List.append_assoc, ← List.append_assoc]
    exact .close (.cons part body) closes items
  | turn body turns alternative =>
    rw [← List.append_assoc, ← List.append_assoc]
    exact .turn (.cons part body) turns alternative

/-- An `if` with the rest of its branch is an item of the section. -/
theorem BranchFollows.item {word : String} {words : List String}
    (opens : opening.Reads .openIf (word :: words))
    (later : BranchFollows chapterId (" ".intercalate (word :: words)) false rest leaves elements
      links sections chapters) :
    ItemsFollow chapterId (opening :: rest)
      (.branch .ifBranch (" ".intercalate (word :: words)) (leaves.map .leaf) :: elements) links
      sections chapters := by
  cases later with
  | close body closes items =>
    have derived := ItemsFollow.item (.branch opens body closes) items
    simpa using derived
  | turn body turns alternative =>
    cases alternative with
    | close body' closes items =>
      have derived := ItemsFollow.item (.fork opens body turns body' closes) items
      simpa using derived

end Following

/-- What can follow at a stage completes it, by induction on the tokens that follow. -/
theorem Continues.completes {stage : Stage} {tokens : List Token} {growth : Growth}
    (continues : Continues stage tokens growth) : Completes stage tokens growth := by
  induction continues with
  | done between =>
    rcases Stage.isBetween_iff.mp between with rfl | ⟨chapterId, rfl⟩ | ⟨chapterId, rfl⟩
    · exact .nil
    · exact .of_chapters .nil
    · exact .of_sections (.of_chapters .nil)
  | openChapter between reads later ih =>
    obtain ⟨noElements, noLinks, noSections, title, rest, sections, chapters, rfl, isParagraph,
      grown, follow⟩ := ih
    have begins := follow.chapter reads isParagraph
    rcases Stage.isBetween_iff.mp between with rfl | ⟨chapterId, rfl⟩ | ⟨chapterId, rfl⟩
    · simp only [Completes, grown]
      exact begins
    · simp only [Completes, grown, noSections]
      exact .of_chapters begins
    · simp only [Completes, grown, noSections, noElements, noLinks]
      exact .of_sections (.of_chapters begins)
  | chapterTitle isParagraph later ih =>
    exact ⟨rfl, rfl, rfl, _, _, _, _, rfl, isParagraph, rfl, ih⟩
  | openSection within reads later ih =>
    obtain ⟨noElements, noLinks, title, rest, elements, links, sections, rfl, isParagraph, grown,
      follow⟩ := ih
    have begins := follow.section reads isParagraph
    rcases Stage.chapterId?_eq_some_iff.mp within with rfl | rfl
    · simp only [Completes, grown]
      exact begins
    · simp only [Completes, grown, noElements, noLinks]
      exact .of_sections begins
  | sectionTitle isParagraph later ih =>
    exact ⟨rfl, rfl, _, _, _, _, _, rfl, isParagraph, rfl, ih⟩
  | leaf derives later ih => exact ih.item (.leaf derives)
  | link derives later ih => exact ih.item (.link derives)
  | openIf reads later ih => exact ih.item reads
  | innerLeaf derives later ih => exact ih.piece (.leaf derives)
  | innerLink derives later ih => exact ih.piece (.link derives)
  | openElse reads later ih => exact .turn .nil reads ih
  | closeIf reads later ih => exact .close .nil reads ih

/-! ## From derivations to tokens -/

/-- Outside of branches, nothing goes to the body of one. -/
theorem Continues.body_eq_nil {stage : Stage} {tokens : List Token} {growth : Growth}
    (continues : Continues stage tokens growth)
    (outside : ∀ chapterId condition hasElse, stage ≠ .inBranch chapterId condition hasElse) :
    growth.body = [] := by
  induction continues with
  | done between => rfl
  | openChapter between reads later ih => exact ih nofun
  | chapterTitle isParagraph later ih => exact ih nofun
  | openSection within reads later ih => exact ih nofun
  | sectionTitle isParagraph later ih => exact ih nofun
  | leaf derives later ih => exact ih nofun
  | link derives later ih => exact ih nofun
  | openIf reads later ih => rfl
  | innerLeaf derives later ih => exact absurd rfl (outside _ _ _)
  | innerLink derives later ih => exact absurd rfl (outside _ _ _)
  | openElse reads later ih => exact absurd rfl (outside _ _ _)
  | closeIf reads later ih => exact absurd rfl (outside _ _ _)

section Preceding

variable {chapterId condition : String} {hasElse : Bool} {inner rest : List Token}
  {links : List Link} {growth : Growth}

/-- The body of a branch can be read in front of anything that goes on in the branch. -/
theorem DerivesBody.continues {leaves : List Leaf}
    (body : DerivesBody chapterId inner leaves links)
    (later : Continues (.inBranch chapterId condition hasElse) rest growth) :
    Continues (.inBranch chapterId condition hasElse) (inner ++ rest)
      { growth with body := leaves ++ growth.body, links := links ++ growth.links } := by
  induction body with
  | nil => exact later
  | cons part _ ih =>
    cases part with
    | leaf derives => exact .innerLeaf derives ih
    | link derives => exact .innerLink derives ih

/-- An item can be read in front of anything that goes on in the section. -/
theorem DerivesItem.continues {elements : List Element}
    (item : DerivesItem chapterId inner elements links)
    (later : Continues (.inSection chapterId) rest growth) :
    Continues (.inSection chapterId) (inner ++ rest)
      { growth with elements := elements ++ growth.elements, links := links ++ growth.links } := by
  have noBody : growth.body = [] := later.body_eq_nil nofun
  cases item with
  | leaf derives => exact .leaf derives later
  | link derives => exact .link derives later
  | branch opens body closes =>
    have continues := Continues.openIf opens (body.continues (.closeIf closes later))
    simpa [noBody] using continues
  | fork opens body turns body' closes =>
    have continues := Continues.openIf opens
      (body.continues (.openElse turns (body'.continues (.closeIf closes later))))
    simpa [noBody] using continues

/-- So can any number of items, one after the other. -/
theorem DerivesItems.continues {elements : List Element}
    (items : DerivesItems chapterId inner elements links)
    (later : Continues (.inSection chapterId) rest growth) :
    Continues (.inSection chapterId) (inner ++ rest)
      { growth with elements := elements ++ growth.elements, links := links ++ growth.links } := by
  induction items with
  | nil => exact later
  | cons part _ ih =>
    have continues := part.continues ih
    simpa using continues

end Preceding

/-- Sections can stand wherever the chapter is current. -/
theorem continues_of_sections {chapterId : String} {inner rest : List Token}
    {sections : List Section} {chapters : List Chapter} {stage : Stage}
    (holds : Many (DerivesSection chapterId) inner sections)
    (within : stage.chapterId? = some chapterId)
    (later : ∀ stage : Stage, stage.isBetween = true →
      Continues stage rest ⟨[], [], [], [], chapters⟩) :
    Continues stage (inner ++ rest) ⟨[], [], [], sections, chapters⟩ := by
  induction holds generalizing stage with
  | nil =>
    refine later stage ?_
    rcases Stage.chapterId?_eq_some_iff.mp within with rfl | rfl
    · rfl
    · rfl
  | cons part _ ih =>
    cases part with
    | mk opens titles items =>
      have within' : (Stage.inSection chapterId).chapterId? = some chapterId := rfl
      have onward := items.continues (ih within')
      have continues := Continues.openSection within opens (.sectionTitle titles onward)
      simpa using continues

/-- Chapters can stand wherever a chapter may begin. -/
theorem continues_of_chapters {tokens : List Token} {chapters : List Chapter} {stage : Stage}
    (holds : Many DerivesChapter tokens chapters) (between : stage.isBetween = true) :
    Continues stage tokens ⟨[], [], [], [], chapters⟩ := by
  induction holds generalizing stage with
  | nil => exact .done between
  | cons part _ ih =>
    cases part with
    | @mk _ _ id _ _ _ opens titles sections =>
      have within : (Stage.chapter id).chapterId? = some id := rfl
      have onward := continues_of_sections sections within fun _ => ih
      exact .openChapter between opens (.chapterTitle titles onward)

/-! ## Whole scripts -/

/-- The ledger after the title of the book. -/
def Ledger.opened (title : String) : Ledger := ⟨2, some title, none, none, none, none⟩

/-- A run that begins a book has read the heading of the book and its title. -/
theorem Ledger.run_initial_eq_ok_iff {tokens : List Token} {last : Ledger} {entries : List Entry}
    (ended : last.pending = none) (begun : last.title.isSome) :
    Ledger.run .strict .initial tokens = .ok (last, entries) ↔
      ∃ opening title surplus rest, tokens = opening :: title :: rest ∧
        opening.Reads .openBook surplus ∧ title.kind = .paragraph ∧
        Ledger.run .strict (.opened title.text) rest = .ok (last, entries) := by
  constructor
  · intro ran
    cases tokens with
    | nil =>
      cases ran
      cases begun
    | cons opening rest =>
      obtain ⟨next, entry, later, moves, onward, rfl⟩ := run_cons_eq_ok_iff.mp ran
      cases moves with
      | openBook opens ready unbegun =>
        cases rest with
        | nil =>
          cases onward
          cases ended
        | cons title rest =>
          obtain ⟨next, entry, later, moves, beyond, rfl⟩ := run_cons_eq_ok_iff.mp onward
          cases moves with
          | title waiting isParagraph =>
            cases waiting
            exact ⟨opening, title, _, rest, rfl, opens, isParagraph, beyond⟩
          | openBook reads ready unbegun => cases ready
          | paragraph isParagraph ready => cases ready
          | _ takes => cases takes.ready
      | title waiting => cases waiting
      | paragraph isParagraph ready begun => cases begun
      | _ takes => cases takes.begun
  · rintro ⟨opening, title, surplus, rest, rfl, opens, isParagraph, ran⟩
    have first : Moves .strict .initial opening _ _ := .openBook opens rfl rfl
    have second : Moves .strict (initial.await .ofBook opening) title _ _ := .title rfl isParagraph
    refine run_cons_eq_ok_iff.mpr ⟨_, _, entries, first, ?_, rfl⟩
    exact run_cons_eq_ok_iff.mpr ⟨_, _, entries, second, ran, rfl⟩

theorem opened_at_book (title : String) : (Ledger.opened title).At .book := ⟨rfl, rfl, rfl, rfl⟩

/-- Soundness: what parses is derived. -/
theorem DerivesBook.of_parse {tokens : List Token} {book : Book}
    (parsed : (parse .strict tokens).result = .ok book) : DerivesBook tokens book := by
  rw [parse_eq_ledger_parse, Ledger.parse_eq_ok_iff] at parsed
  obtain ⟨last, entries, title, ran, ended, closed, titled, rfl⟩ := parsed
  obtain ⟨opening, heading, surplus, rest, rfl, opens, isParagraph, ran⟩ :=
    (Ledger.run_initial_eq_ok_iff ended (by simp [titled])).mp ran
  have continues := continues_of_run (opened_at_book heading.text) rfl ran ended (closed rfl)
  -- The run that `yields` gives is this one, and it keeps the title.
  obtain ⟨_, _, ran', titled', -, -, -⟩ := continues.yields rfl (opened_at_book heading.text)
  obtain ⟨rfl, rfl⟩ := Prod.mk.inj (Except.ok.inj (ran.symm.trans ran'))
  obtain rfl : heading.text = title := Option.some.inj (titled'.symm.trans titled)
  exact .mk opens isParagraph continues.completes

/-- Completeness: what is derived parses. -/
theorem DerivesBook.parse_eq {tokens : List Token} {book : Book}
    (derives : DerivesBook tokens book) : (parse .strict tokens).result = .ok book := by
  cases derives with
  | @mk opening title surplus rest chapters opens isParagraph holds =>
    have continues : Continues .book rest _ := continues_of_chapters holds rfl
    obtain ⟨last, entries, ran, titled, ended, closed, grown⟩ :=
      continues.yields rfl (opened_at_book title.text)
    have whole := (Ledger.run_initial_eq_ok_iff ended (by rw [titled]; rfl)).mpr
      ⟨opening, title, surplus, rest, rfl, opens, isParagraph, ran⟩
    have same : Growth.ofEntries false entries = ⟨[], [], [], [], chapters⟩ := grown
    rw [parse_eq_ledger_parse, Ledger.parse_eq_ok_iff]
    exact ⟨last, entries, title.text, whole, ended, fun _ => closed, titled,
      by rw [bookOfEntries, same]⟩

/-- A strict parse gives a book exactly when the grammar derives it. -/
theorem parse_strict_eq_ok_iff (tokens : List Token) (book : Book) :
    (parse .strict tokens).result = .ok book ↔ DerivesBook tokens book :=
  ⟨.of_parse, DerivesBook.parse_eq⟩

end Gamebook.Script
