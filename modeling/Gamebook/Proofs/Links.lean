import Gamebook.Story.Lookup

/-!
# Which links have a target

A link names a chapter and a section by their ids, and both may repeat.  So there
are two ways to say that there is such a section.  A section with these ids stands
somewhere in the book (`Has`).  Or the first chapter with the one id has a section
with the other (`Finds`).

Looking up goes the second way, and so does the list of dangling links.  The two
agree as long as no section is hidden, that is, each section is found by its ids
(`HidesNothing`).  Chapters with different ids hide nothing, and sections of one
chapter with the same id do no harm.  But a chapter may hide the sections of those
behind it that have its id.  A link to a hidden section counts as dangling, though
the section is there (`hidden_section_dangles`).
-/

namespace Gamebook.Story

namespace Book

variable {book : Book} {link : Link} {chapter : Chapter} {here : Section}
  {chapterId sectionId : String}

/-- Some section has this id, in a chapter with that id. -/
def Has (book : Book) (chapterId sectionId : String) : Prop :=
  ∃ placed ∈ book.sections, placed.1.id = chapterId ∧ placed.2.id = sectionId

instance (book : Book) (chapterId sectionId : String) : Decidable (book.Has chapterId sectionId) :=
  inferInstanceAs (Decidable (∃ placed ∈ book.sections, _))

/-- The first chapter with that id has a section with this id. -/
def Finds (book : Book) (chapterId sectionId : String) : Prop :=
  ∃ before chapter after, book.chapters = before ++ chapter :: after ∧
    (∀ other ∈ before, other.id ≠ chapterId) ∧ chapter.id = chapterId ∧
      ∃ here ∈ chapter.sections, here.id = sectionId

/-- Each section is found by its ids, if not itself then another one with them. -/
def HidesNothing (book : Book) : Prop :=
  ∀ placed ∈ book.sections, book.Finds placed.1.id placed.2.id

/-! ## Looking up -/

theorem chapter?_eq_some_iff : book.chapter? chapterId = some chapter ↔
    chapter.id = chapterId ∧ ∃ before after, book.chapters = before ++ chapter :: after ∧
      ∀ other ∈ before, other.id ≠ chapterId := by
  simp [chapter?, List.find?_eq_some_iff_append]

theorem section?_isSome_iff :
    (chapter.section? sectionId).isSome ↔ ∃ here ∈ chapter.sections, here.id = sectionId := by
  simp [Chapter.section?]

theorem mem_sections_iff :
    (chapter, here) ∈ book.sections ↔ chapter ∈ book.chapters ∧ here ∈ chapter.sections := by
  simp [sections]

/-- A link is resolved by the first chapter with its chapter id, or not at all. -/
theorem resolve?_isSome_iff :
    (book.resolve? link).isSome ↔ book.Finds link.chapterId link.sectionId := by
  simp only [resolve?, section?, Option.isSome_bind, Option.any_eq_true, section?_isSome_iff,
    chapter?_eq_some_iff]
  constructor
  · rintro ⟨chapter, ⟨named, before, after, split, first⟩, found⟩
    exact ⟨before, chapter, after, split, first, named, found⟩
  · rintro ⟨before, chapter, after, split, first, named, found⟩
    exact ⟨chapter, ⟨named, before, after, split, first⟩, found⟩

instance (book : Book) (chapterId sectionId : String) :
    Decidable (book.Finds chapterId sectionId) :=
  decidable_of_iff _ (@resolve?_isSome_iff book ⟨"", chapterId, sectionId⟩)

/-! ## Hidden sections -/

theorem Finds.has (finds : book.Finds chapterId sectionId) : book.Has chapterId sectionId := by
  obtain ⟨before, chapter, after, split, -, named, here, inChapter, found⟩ := finds
  have inBook : chapter ∈ book.chapters := by simp [split]
  exact ⟨(chapter, here), mem_sections_iff.mpr ⟨inBook, inChapter⟩, named, found⟩

theorem HidesNothing.finds_iff_has (nothing : book.HidesNothing) :
    book.Finds chapterId sectionId ↔ book.Has chapterId sectionId := by
  refine ⟨Finds.has, ?_⟩
  rintro ⟨placed, inBook, rfl, rfl⟩
  exact nothing placed inBook

theorem hidesNothing_iff :
    book.HidesNothing ↔ ∀ link : Link, (book.resolve? link).isSome ↔
      book.Has link.chapterId link.sectionId := by
  constructor
  · intro nothing link
    exact resolve?_isSome_iff.trans nothing.finds_iff_has
  · intro agrees placed inBook
    have found := (agrees ⟨"", placed.1.id, placed.2.id⟩).mpr ⟨placed, inBook, rfl, rfl⟩
    exact resolve?_isSome_iff.mp found

/-- Chapters with different ids hide nothing. -/
theorem hidesNothing_of_nodup (distinct : (book.chapters.map (·.id)).Nodup) :
    book.HidesNothing := by
  rintro ⟨chapter, here⟩ placed
  obtain ⟨inBook, inChapter⟩ := mem_sections_iff.mp placed
  obtain ⟨before, after, split⟩ := List.append_of_mem inBook
  refine ⟨before, chapter, after, split, ?_, rfl, here, inChapter, rfl⟩
  intro other earlier same
  -- Another chapter with the id would be a second occurrence of it.
  rw [split, List.map_append, List.nodup_append] at distinct
  exact distinct.2.2 _ (List.mem_map_of_mem earlier) _ (by simp) same

/-! ## The list of dangling links -/

/-- The links of all sections that meet a condition, each with its place. -/
theorem filter_links (keep : Link → Bool) :
    book.links.filter (fun placed => keep placed.link) =
      book.sections.flatMap fun (chapter, here) =>
        (here.links.filter keep).map (⟨chapter.id, here.id, ·⟩) := by
  simp [links, List.filter_flatMap, List.filter_map, Function.comp_def]

theorem danglingLinks_eq :
    book.danglingLinks = book.sections.flatMap fun (chapter, here) =>
      (here.links.filter fun link => ¬ book.Finds link.chapterId link.sectionId).map
        (⟨chapter.id, here.id, ·⟩) := by
  rw [← filter_links, danglingLinks]
  refine List.filter_congr ?_
  intro placed _
  rw [Bool.eq_iff_iff]
  simp [← resolve?_isSome_iff]

/-- Links are checked against the first chapter with their chapter id, each with
its place and in order.  This is to check them against all sections exactly where
no section is hidden, as is the case where chapters have different ids. -/
theorem links_checked_by_first_chapter (book : Book) :
    (∀ link, (book.resolve? link).isSome ↔ book.Finds link.chapterId link.sectionId) ∧
    (book.danglingLinks = book.sections.flatMap fun (chapter, here) =>
      (here.links.filter fun link => ¬ book.Finds link.chapterId link.sectionId).map
        (⟨chapter.id, here.id, ·⟩)) ∧
    (book.HidesNothing ↔ ∀ link : Link, (book.resolve? link).isSome ↔
      book.Has link.chapterId link.sectionId) ∧
    (book.HidesNothing → book.danglingLinks = book.sections.flatMap fun (chapter, here) =>
      (here.links.filter fun link => ¬ book.Has link.chapterId link.sectionId).map
        (⟨chapter.id, here.id, ·⟩)) ∧
    ((book.chapters.map (·.id)).Nodup → book.HidesNothing) := by
  refine ⟨fun link => resolve?_isSome_iff, danglingLinks_eq, hidesNothing_iff, ?_,
    hidesNothing_of_nodup⟩
  intro nothing
  simp only [danglingLinks_eq, nothing.finds_iff_has]

/-- Two sections with one id, in chapters with different ids. -/
theorem links_checked_twin_sections :
    let book : Book := ⟨"B", [⟨"c", "One", [⟨"a", "A", [], []⟩, ⟨"a", "A again", [], []⟩]⟩,
      ⟨"d", "Two", [⟨"b", "Bee", [], [⟨"Back", "c", "a"⟩, ⟨"On", "c", "b"⟩]⟩]⟩]⟩
    (book.chapters.map (·.id)).Nodup ∧ book.HidesNothing ∧
      book.danglingLinks = [⟨"d", "b", ⟨"On", "c", "b"⟩⟩] := by
  intro book
  have distinct : (book.chapters.map (·.id)).Nodup := by decide
  obtain ⟨-, -, -, checked, nothing⟩ := links_checked_by_first_chapter book
  exact ⟨distinct, nothing distinct, (checked (nothing distinct)).trans (by decide)⟩

/-- Two chapters with one id.  The section of the second has a link to itself. -/
def twinChapters : Book :=
  ⟨"B", [⟨"c", "One", [⟨"a", "A", [], []⟩]⟩,
    ⟨"c", "Two", [⟨"b", "Bee", [], [⟨"Stay", "c", "b"⟩]⟩]⟩]⟩

/-- The section that the link names is there, and yet the link cannot be resolved
and counts as dangling. -/
theorem hidden_section_dangles :
    twinChapters.Has "c" "b" ∧ ¬ (twinChapters.resolve? ⟨"Stay", "c", "b"⟩).isSome ∧
      twinChapters.danglingLinks = [⟨"c", "b", ⟨"Stay", "c", "b"⟩⟩] := by
  decide

end Book

end Gamebook.Story
