import Gamebook.Proofs.Recognition

/-!
# Scripts one after the other

In strict mode nothing of a chapter is left when the next one begins: no branch
is open, and the section is no longer current.  So what can follow there does
not depend on what has been before (`Continues.of_chapter`).  Where a script is
cut in front of a chapter, both parts are scripts of their own once the second
one gets the heading of the book, and the chapters of the whole are those of
both parts.

`Continues.append` is one direction, `Continues.split` is the other one.  Both
go through the first part token by token.
-/

namespace Gamebook.Script

open Gamebook.Story

/-- The tokens are at an end, or a chapter is to begin. -/
def AtChapter (tokens : List Token) : Prop :=
  ∀ token rest, tokens = token :: rest → ∃ fields, token.Reads .openChapter fields

namespace Growth

/-- What goes to the book as well. -/
def addChapters (growth : Growth) (chapters : List Chapter) : Growth :=
  { growth with chapters := growth.chapters ++ chapters }

end Growth

/-! ## What is read as one thing is not read as another -/

theorem Token.Reads.keyword_unique {token : Token} {keyword other : Keyword}
    {fields words : List String} (reads : token.Reads keyword fields)
    (others : token.Reads other words) : keyword = other :=
  Option.some.inj (reads.keyword_eq.symm.trans others.keyword_eq)

theorem Token.Reads.not_paragraph {token : Token} {keyword : Keyword} {fields : List String}
    (reads : token.Reads keyword fields) : token.kind ≠ .paragraph := by
  simp [reads.isDirective]

theorem DerivesLeaf.not_openChapter {token : Token} {leaf : Leaf} {fields : List String}
    (derives : DerivesLeaf token leaf) : ¬ token.Reads .openChapter fields := by
  intro opens
  cases derives with
  | paragraph isParagraph => exact opens.not_paragraph isParagraph
  | state reads => cases reads.keyword_unique opens
  | addItem reads kept => cases reads.keyword_unique opens
  | removeItem reads removed => cases reads.keyword_unique opens

theorem DerivesLink.not_openChapter {token : Token} {link : Link} {chapterId : String}
    {fields : List String} (derives : DerivesLink chapterId token link) :
    ¬ token.Reads .openChapter fields := by
  intro opens
  cases derives with
  | next reads => cases reads.keyword_unique opens
  | jump reads => cases reads.keyword_unique opens

/-! ## At the beginning of a chapter -/

section Cut

variable {stage : Stage} {before after : List Token} {growth : Growth}

/-- A chapter begins only between chapters, sections and items, and all that
comes from there on goes to the book. -/
theorem Continues.of_openChapter {token : Token} {rest : List Token} {fields : List String}
    (continues : Continues stage (token :: rest) growth)
    (opens : token.Reads .openChapter fields) :
    stage.isBetween = true ∧ growth = ⟨[], [], [], [], growth.chapters⟩ ∧
      ∀ other : Stage, other.isBetween = true → Continues other (token :: rest) growth := by
  cases continues with
  | openChapter between reads later =>
    refine ⟨between, ?_, fun _ free => .openChapter free reads later⟩
    have noBody := later.body_eq_nil nofun
    cases later with
    | done between => cases between
    | openChapter between => cases between
    | openSection within => cases within
    | chapterTitle isParagraph later => rw [← noBody]
  | chapterTitle isParagraph => exact absurd isParagraph opens.not_paragraph
  | openSection within reads => cases reads.keyword_unique opens
  | sectionTitle isParagraph => exact absurd isParagraph opens.not_paragraph
  | leaf derives => exact absurd opens derives.not_openChapter
  | link derives => exact absurd opens derives.not_openChapter
  | openIf reads => cases reads.keyword_unique opens
  | innerLeaf derives => exact absurd opens derives.not_openChapter
  | innerLink derives => exact absurd opens derives.not_openChapter
  | openElse reads => cases reads.keyword_unique opens
  | closeIf reads => cases reads.keyword_unique opens

/-- Where a chapter begins, or the tokens end, the stage does not matter. -/
theorem Continues.of_chapter (continues : Continues stage after growth)
    (cut : AtChapter after) :
    stage.isBetween = true ∧ growth = ⟨[], [], [], [], growth.chapters⟩ ∧
      ∀ other : Stage, other.isBetween = true → Continues other after growth := by
  cases after with
  | nil =>
    cases continues with
    | done between => exact ⟨between, rfl, fun _ => .done⟩
  | cons token rest =>
    obtain ⟨fields, opens⟩ := cut token rest rfl
    exact continues.of_openChapter opens

/-! ## Two parts and the whole -/

/-- A script of chapters can stand behind whatever comes to an end. -/
theorem Continues.append {chapters : List Chapter} (first : Continues stage before growth)
    (cut : AtChapter after) (second : Continues .book after ⟨[], [], [], [], chapters⟩) :
    Continues stage (before ++ after) (growth.addChapters chapters) := by
  induction first with
  | done between => exact (second.of_chapter cut).2.2 _ between
  | openChapter between reads later ih => exact .openChapter between reads ih
  | chapterTitle isParagraph later ih => exact .chapterTitle isParagraph ih
  | openSection within reads later ih => exact .openSection within reads ih
  | sectionTitle isParagraph later ih => exact .sectionTitle isParagraph ih
  | leaf derives later ih => exact .leaf derives ih
  | link derives later ih => exact .link derives ih
  | openIf reads later ih => exact .openIf reads ih
  | innerLeaf derives later ih => exact .innerLeaf derives ih
  | innerLink derives later ih => exact .innerLink derives ih
  | openElse reads later ih => exact .openElse reads ih
  | closeIf reads later ih => exact .closeIf reads ih

/-- What can follow is cut in two in front of a chapter. -/
theorem Continues.split (continues : Continues stage (before ++ after) growth)
    (cut : AtChapter after) :
    ∃ first chapters, Continues stage before first ∧
      Continues .book after ⟨[], [], [], [], chapters⟩ ∧ growth = first.addChapters chapters := by
  induction before generalizing stage growth with
  | nil =>
    obtain ⟨between, same, anywhere⟩ := continues.of_chapter cut
    have second := anywhere .book rfl
    rw [same] at second ⊢
    exact ⟨.none, growth.chapters, .done between, second, rfl⟩
  | cons token rest ih =>
    cases continues with
    | openChapter between reads later =>
      obtain ⟨first, chapters, begins, second, rfl⟩ := ih later
      exact ⟨_, chapters, .openChapter between reads begins, second, rfl⟩
    | chapterTitle isParagraph later =>
      obtain ⟨first, chapters, begins, second, rfl⟩ := ih later
      exact ⟨_, chapters, .chapterTitle isParagraph begins, second, rfl⟩
    | openSection within reads later =>
      obtain ⟨first, chapters, begins, second, rfl⟩ := ih later
      exact ⟨_, chapters, .openSection within reads begins, second, rfl⟩
    | sectionTitle isParagraph later =>
      obtain ⟨first, chapters, begins, second, rfl⟩ := ih later
      exact ⟨_, chapters, .sectionTitle isParagraph begins, second, rfl⟩
    | leaf derives later =>
      obtain ⟨first, chapters, begins, second, rfl⟩ := ih later
      exact ⟨_, chapters, .leaf derives begins, second, rfl⟩
    | link derives later =>
      obtain ⟨first, chapters, begins, second, rfl⟩ := ih later
      exact ⟨_, chapters, .link derives begins, second, rfl⟩
    | openIf reads later =>
      obtain ⟨first, chapters, begins, second, rfl⟩ := ih later
      exact ⟨_, chapters, .openIf reads begins, second, rfl⟩
    | innerLeaf derives later =>
      obtain ⟨first, chapters, begins, second, rfl⟩ := ih later
      exact ⟨_, chapters, .innerLeaf derives begins, second, rfl⟩
    | innerLink derives later =>
      obtain ⟨first, chapters, begins, second, rfl⟩ := ih later
      exact ⟨_, chapters, .innerLink derives begins, second, rfl⟩
    | openElse reads later =>
      obtain ⟨first, chapters, begins, second, rfl⟩ := ih later
      exact ⟨_, chapters, .openElse reads begins, second, rfl⟩
    | closeIf reads later =>
      obtain ⟨first, chapters, begins, second, rfl⟩ := ih later
      exact ⟨_, chapters, .closeIf reads begins, second, rfl⟩

end Cut

/-! ## Whole scripts -/

section Whole

variable {opening title : Token} {surplus : List String}

/-- Behind the heading of the book, a strict parse gives a book exactly when the
tokens can follow there. -/
theorem parse_opened_eq_ok_iff {rest : List Token} {book : Book}
    (opens : opening.Reads .openBook surplus) (isParagraph : title.kind = .paragraph) :
    (parse .strict (opening :: title :: rest)).result = .ok book ↔
      ∃ chapters, Continues .book rest ⟨[], [], [], [], chapters⟩ ∧
        book = ⟨title.text, chapters⟩ := by
  constructor
  · intro parsed
    have derives := DerivesBook.of_parse parsed
    cases derives with
    | mk opens isParagraph holds => exact ⟨_, continues_of_chapters holds rfl, rfl⟩
  · rintro ⟨chapters, continues, rfl⟩
    exact DerivesBook.parse_eq (.mk opens isParagraph continues.completes)

/-- The chapters of a script that is cut in front of a chapter are those of both
parts. -/
theorem continues_append_iff {before after : List Token} (cut : AtChapter after)
    {chapters : List Chapter} :
    Continues .book (before ++ after) ⟨[], [], [], [], chapters⟩ ↔
      ∃ former latter, Continues .book before ⟨[], [], [], [], former⟩ ∧
        Continues .book after ⟨[], [], [], [], latter⟩ ∧ chapters = former ++ latter := by
  constructor
  · intro continues
    obtain ⟨⟨body, elements, links, sections, former⟩, latter, begins, second, same⟩ :=
      continues.split cut
    simp only [Growth.addChapters, Growth.mk.injEq] at same
    obtain ⟨rfl, rfl, rfl, rfl, rfl⟩ := same
    exact ⟨former, latter, begins, second, rfl⟩
  · rintro ⟨former, latter, begins, second, rfl⟩
    exact begins.append cut second

/-- Behind the heading of the book, a script that is cut in front of a chapter is
parsed in strict mode exactly when both parts are, and the chapters of the whole
are those of both parts. -/
theorem parse_strict_append (opens : opening.Reads .openBook surplus)
    (isParagraph : title.kind = .paragraph) (before : List Token) {after : List Token}
    (cut : AtChapter after) :
    ((∃ whole, (parse .strict (opening :: title :: (before ++ after))).result = .ok whole) ↔
      (∃ former, (parse .strict (opening :: title :: before)).result = .ok former) ∧
        ∃ latter, (parse .strict (opening :: title :: after)).result = .ok latter) ∧
    ∀ whole former latter,
      (parse .strict (opening :: title :: (before ++ after))).result = .ok whole →
      (parse .strict (opening :: title :: before)).result = .ok former →
      (parse .strict (opening :: title :: after)).result = .ok latter →
      whole.title = former.title ∧ whole.title = latter.title ∧
        whole.chapters = former.chapters ++ latter.chapters := by
  constructor
  · simp only [parse_opened_eq_ok_iff opens isParagraph, continues_append_iff cut]
    constructor
    · rintro ⟨_, _, ⟨former, latter, begins, second, rfl⟩, rfl⟩
      exact ⟨⟨_, former, begins, rfl⟩, _, latter, second, rfl⟩
    · rintro ⟨⟨_, former, begins, rfl⟩, _, latter, second, rfl⟩
      exact ⟨_, _, ⟨former, latter, begins, second, rfl⟩, rfl⟩
  · intro whole former latter parsed parsedBefore parsedAfter
    obtain ⟨_, continues, rfl⟩ := (parse_opened_eq_ok_iff opens isParagraph).mp parsed
    obtain ⟨former', latter', begins, second, rfl⟩ := (continues_append_iff cut).mp continues
    have again := (parse_opened_eq_ok_iff opens isParagraph).mpr ⟨_, begins, rfl⟩
    have againAfter := (parse_opened_eq_ok_iff opens isParagraph).mpr ⟨_, second, rfl⟩
    obtain rfl := Except.ok.inj (parsedBefore.symm.trans again)
    obtain rfl := Except.ok.inj (parsedAfter.symm.trans againAfter)
    exact ⟨rfl, rfl, rfl⟩

end Whole

/-- A closed branch in front of the cut, and a section in each part. -/
theorem parse_strict_append_two_chapters :
    ∃ opening title before after whole, opening = Token.directive "book" 1 ∧
      title = Token.paragraph "T" 2 ∧
      before = [Token.directive "chapter c" 3, .paragraph "C" 4, .directive "section s" 5,
        .paragraph "S" 6, .directive "if x" 7, .directive "endif" 8] ∧
      after = [Token.directive "chapter d" 9, .paragraph "D" 10, .directive "section t" 11,
        .paragraph "U" 12, .directive "item key" 13] ∧
      (parse .strict (opening :: title :: (before ++ after))).result = .ok whole ∧
      whole.chapters = [⟨"c", "C", [⟨"s", "S", [.branch .ifBranch "x" []], []⟩]⟩] ++
        [⟨"d", "D", [⟨"t", "U", [.leaf (.addItem "key")], []⟩]⟩] := by
  have opens : (Token.directive "book" 1).Reads .openBook [] := ⟨rfl, rfl, rfl⟩
  have cut : AtChapter [.directive "chapter d" 9, .paragraph "D" 10, .directive "section t" 11,
      .paragraph "U" 12, .directive "item key" 13] := by
    rintro _ _ ⟨⟩
    exact ⟨["d"], rfl, rfl, rfl⟩
  have isParagraph : (Token.paragraph "T" 2).kind = .paragraph := rfl
  have parts := parse_strict_append opens isParagraph
    [.directive "chapter c" 3, .paragraph "C" 4, .directive "section s" 5, .paragraph "S" 6,
      .directive "if x" 7, .directive "endif" 8] cut
  obtain ⟨whole, parsed⟩ := parts.1.mpr ⟨⟨_, rfl⟩, _, rfl⟩
  exact ⟨_, _, _, _, whole, rfl, rfl, rfl, rfl, parsed, (parts.2 whole _ _ parsed rfl rfl).2.2⟩

end Gamebook.Script
