import Gamebook.Proofs.Places
import Gamebook.Script.Parse

/-!
# The pointers of a state

A state points into the book it builds by indices.  `State.Coherent` says that
the pointers are right: each is there exactly when there is something to point
at, the current chapter and section are the last ones, and the places of the
open branch and its alternative hold just those.

Every step keeps this.  What makes it so is that nothing is ever removed:
whatever is added goes behind what is there, so a place that was good stays good
(`State.Coherent.grow`), also when the branch is in another section or chapter
than the current one.

From coherence it follows that no addition is lost
(`State.Coherent.losesNothing`).
-/

namespace Gamebook.Script

open Gamebook.Story

/-! ## The invariant -/

/-- The element at this place of the book so far. -/
def State.elementAt? (state : State) (place : Place) : Option Element :=
  state.book.bind (·.elementAt? place)

/-- What has to be there for a heading to be read. -/
def Heading.Ready (state : State) : Heading → Prop
  | .ofBook => state.book = none
  | .ofChapter _ => state.book.isSome
  | .ofSection _ => state.chapterAt.isSome

/-- Once the book has begun, what a heading needs is not lost. -/
theorem Heading.Ready.keep {state next : State} {heading : Heading} (ready : heading.Ready state)
    (begun : state.book.isSome) (after : next.book.isSome)
    (current : state.chapterAt.isSome → next.chapterAt.isSome) : heading.Ready next := by
  cases heading with
  | ofBook =>
    have unbegun : state.book = none := ready
    simp [unbegun] at begun
  | ofChapter id => exact after
  | ofSection id => exact current ready

/-- The pointers to the current chapter and section are right. -/
structure State.Situated (state : State) : Prop where
  /-- A current section is in a current chapter. -/
  chapter_of_section : state.sectionAt.isSome → state.chapterAt.isSome
  /-- A current chapter is in a book. -/
  book_of_chapter : state.chapterAt.isSome → state.book.isSome
  /-- The current chapter is the last of the book, and there is one if the book
  has any. -/
  chapterAt_eq : ∀ book, state.book = some book → state.chapterAt = lastIndex? book.chapters
  /-- The current section is the last of the current chapter, and there is one if
  the chapter has any. -/
  sectionAt_eq : ∀ chapter, state.chapter? = some chapter →
    state.sectionAt = lastIndex? chapter.sections
  /-- A heading that waits for its title has been read where it may stand. -/
  pending_ready : ∀ pending, state.pending = some pending → pending.heading.Ready state

/-- The places of the open branch and of its alternative are right. -/
structure State.Branching (state : State) : Prop where
  /-- An open alternative belongs to an open branch. -/
  if_of_else : state.openElse.isSome → state.openIf.isSome
  /-- At the place of the open branch there is a branch. -/
  openIf_found : ∀ place, state.openIf = some place →
    ∃ condition body, state.elementAt? place = some (.branch .ifBranch condition body)
  /-- At the place of the open alternative there is an alternative, with the
  condition of the open branch. -/
  openElse_found : ∀ place, state.openElse = some place →
    ∃ condition body, state.elementAt? place = some (.branch .elseBranch condition body) ∧
      state.openCondition? = some condition
  /-- The opener is known exactly while a branch is open. -/
  opener_iff : state.opener.isSome ↔ state.openIf.isSome
  /-- The opener reads as the opening of the open branch. -/
  opener_reads : ∀ token, state.opener = some token → token.kind = .directive ∧
    token.reading.keyword? = some .openIf ∧ state.openCondition? = some (token.reading.rest 0)

/-- All pointers are right. -/
structure State.Coherent (state : State) : Prop extends State.Situated state, State.Branching state

namespace State

variable {state next : State}

/-- The condition of the open branch is the one at its place. -/
theorem openCondition?_eq_some_iff {condition : String} :
    state.openCondition? = some condition ↔ ∃ place body, state.openIf = some place ∧
      state.elementAt? place = some (.branch .ifBranch condition body) := by
  unfold openCondition? elementAt?
  cases state.openIf with
  | none => simp
  | some place =>
    cases state.book with
    | none => simp
    | some book =>
      cases found : book.elementAt? place with
      | none => simp [found]
      | some element =>
        cases element with
        | leaf leaf => simp [found]
        | branch kind condition body => cases kind <;> simp [found]

namespace Coherent

variable (coherent : state.Coherent)

include coherent

/-! ## What the pointers find -/

theorem chapter_found {chapterAt : Nat} (current : state.chapterAt = some chapterAt) :
    ∃ book chapter, state.book = some book ∧ book.chapters[chapterAt]? = some chapter := by
  obtain ⟨book, begun⟩ := Option.isSome_iff_exists.mp
    (coherent.book_of_chapter (by simp [current]))
  have last := coherent.chapterAt_eq book begun
  obtain ⟨chapter, found⟩ := getElem?_of_lastIndex? (last.symm.trans current)
  exact ⟨book, chapter, begun, found⟩

theorem section_found {sectionAt : Nat} (current : state.sectionAt = some sectionAt) :
    ∃ book chapterAt here, state.book = some book ∧ state.chapterAt = some chapterAt ∧
      book.sectionAt? chapterAt sectionAt = some here := by
  obtain ⟨chapterAt, chapterCurrent⟩ := Option.isSome_iff_exists.mp
    (coherent.chapter_of_section (by simp [current]))
  obtain ⟨book, chapter, begun, found⟩ := coherent.chapter_found chapterCurrent
  have last := coherent.sectionAt_eq chapter (by simp [chapter?, begun, chapterCurrent, found])
  obtain ⟨here, sectionFound⟩ := getElem?_of_lastIndex? (last.symm.trans current)
  exact ⟨book, chapterAt, here, begun, chapterCurrent, by simp [Book.sectionAt?, found,
    sectionFound]⟩

theorem openElse_eq_none (closed : state.openIf = none) : state.openElse = none := by
  cases opened : state.openElse with
  | none => rfl
  | some place => simpa [closed] using coherent.if_of_else (by simp [opened])

theorem condition_found (isOpen : state.openIf.isSome) :
    ∃ condition, state.openCondition? = some condition := by
  obtain ⟨place, atPlace⟩ := Option.isSome_iff_exists.mp isOpen
  obtain ⟨condition, body, found⟩ := coherent.openIf_found place atPlace
  exact ⟨condition, openCondition?_eq_some_iff.mpr ⟨place, body, atPlace, found⟩⟩

/-- The innermost open branch is a branch, of one kind or the other. -/
theorem innermost_found {place : Place} (innermost : state.innermost? = some place) :
    ∃ book kind condition body, state.book = some book ∧
      book.elementAt? place = some (.branch kind condition body) := by
  have found : ∃ kind condition body,
      state.elementAt? place = some (.branch kind condition body) := by
    cases alternative : state.openElse with
    | some other =>
      have same : other = place := by simpa [innermost?, alternative] using innermost
      obtain ⟨condition, body, found, -⟩ := coherent.openElse_found other alternative
      exact ⟨.elseBranch, condition, body, same ▸ found⟩
    | none =>
      obtain ⟨condition, body, found⟩ := coherent.openIf_found place
        (by simpa [innermost?, alternative] using innermost)
      exact ⟨.ifBranch, condition, body, found⟩
  obtain ⟨kind, condition, body, found⟩ := found
  obtain ⟨book, begun, foundThere⟩ := Option.bind_eq_some_iff.mp found
  exact ⟨book, kind, condition, body, begun, foundThere⟩

end Coherent

/-! ## What additions keep -/

theorem Branching.openCondition?_eq {book grown : Book} (branching : state.Branching)
    (begun : state.book = some book) (after : next.book = some grown)
    (keeps : book.KeepsBranches grown) (sameIf : next.openIf = state.openIf) :
    next.openCondition? = state.openCondition? := by
  cases opened : state.openIf with
  | none => simp [openCondition?, sameIf, opened]
  | some place =>
    obtain ⟨condition, body, found⟩ := branching.openIf_found place opened
    obtain ⟨body', kept⟩ := keeps place .ifBranch condition body
      (by simpa [elementAt?, begun] using found)
    have before := openCondition?_eq_some_iff.mpr ⟨place, body, opened, found⟩
    have later : next.openCondition? = some condition :=
      openCondition?_eq_some_iff.mpr ⟨place, body', sameIf.trans opened,
        by simpa [elementAt?, after] using kept⟩
    exact later.trans before.symm

/-- Where the branches of the book are kept, their places stay right. -/
theorem Branching.keep {book grown : Book} (branching : state.Branching)
    (begun : state.book = some book) (after : next.book = some grown)
    (keeps : book.KeepsBranches grown) (sameIf : next.openIf = state.openIf)
    (sameElse : next.openElse = state.openElse) (sameOpener : next.opener = state.opener) :
    next.Branching := by
  have condition := branching.openCondition?_eq begun after keeps sameIf
  constructor
  · simpa only [sameIf, sameElse] using branching.if_of_else
  · intro place opened
    obtain ⟨condition, body, found⟩ := branching.openIf_found place (sameIf ▸ opened)
    obtain ⟨body', kept⟩ := keeps place .ifBranch condition body
      (by simpa [elementAt?, begun] using found)
    exact ⟨condition, body', by simpa [elementAt?, after] using kept⟩
  · intro place opened
    obtain ⟨name, body, found, known⟩ := branching.openElse_found place (sameElse ▸ opened)
    obtain ⟨body', kept⟩ := keeps place .elseBranch name body
      (by simpa [elementAt?, begun] using found)
    exact ⟨name, body', by simpa [elementAt?, after] using kept, condition.trans known⟩
  · rw [sameOpener, sameIf]
    exact branching.opener_iff
  · intro token opened
    rw [condition]
    exact branching.opener_reads token (sameOpener ▸ opened)

/-- An addition inside of the sections keeps all pointers right. -/
theorem Coherent.grow {book grown : Book} (coherent : state.Coherent)
    (begun : state.book = some book) (grows : book.Grows grown) :
    ({ state with book := some grown } : State).Coherent where
  toBranching := coherent.toBranching.keep begun rfl grows.branches rfl rfl rfl
  chapter_of_section := coherent.chapter_of_section
  book_of_chapter := fun _ => rfl
  chapterAt_eq := by
    rintro _ ⟨⟩
    rw [coherent.chapterAt_eq book begun]
    exact lastIndex?_eq_of_length_eq
      (by simpa [Book.outline] using (congrArg List.length grows.outline).symm)
  sectionAt_eq := by
    intro chapter found
    simp only [chapter?, Option.bind_eq_bind, Option.bind_some,
      Option.bind_eq_some_iff] at found
    obtain ⟨chapterAt, current, found⟩ := found
    obtain ⟨old, oldFound, same⟩ : ∃ old, book.chapters[chapterAt]? = some old ∧
        (old.id, old.sections.map (·.id)) = (chapter.id, chapter.sections.map (·.id)) := by
      have outlines := congrArg (·[chapterAt]?) grows.outline
      simpa [Book.outline, found] using outlines.symm
    rw [coherent.sectionAt_eq old (by simp [chapter?, begun, current, oldFound])]
    refine lastIndex?_eq_of_length_eq ?_
    simpa using congrArg (List.length ∘ Prod.snd) same
  pending_ready := by
    intro pending waiting
    have ready := coherent.pending_ready pending waiting
    exact ready.keep (by simp [begun]) rfl id

/-! ## What additions do -/

theorem modifySection?_eq_some_iff {change : Section → Section} :
    state.modifySection? change = some next ↔ ∃ book chapterAt sectionAt here,
      state.book = some book ∧ state.chapterAt = some chapterAt ∧
      state.sectionAt = some sectionAt ∧ book.sectionAt? chapterAt sectionAt = some here ∧
      next = { state with book := some (book.modifySection chapterAt sectionAt change) } := by
  simp only [modifySection?, Option.bind_eq_bind, Option.bind_eq_some_iff, Option.pure_def,
    Option.some.injEq]
  constructor
  · rintro ⟨sectionAt, current, chapterAt, chapterCurrent, book, begun, here, found, rfl⟩
    exact ⟨book, chapterAt, sectionAt, here, begun, chapterCurrent, current, found, rfl⟩
  · rintro ⟨book, chapterAt, sectionAt, here, begun, chapterCurrent, current, found, rfl⟩
    exact ⟨sectionAt, current, chapterAt, chapterCurrent, book, begun, here, found, rfl⟩

theorem pushElement?_eq_some_iff {element : Element} :
    state.pushElement? element = some next ↔
      (∃ place book kind condition body, state.innermost? = some place ∧
        state.book = some book ∧ book.elementAt? place = some (.branch kind condition body) ∧
        next = { state with book := some (book.modifyElement place fun _ =>
          .branch kind condition (body ++ [element])) }) ∨
      (state.innermost? = none ∧ state.modifySection? (·.addElement element) = some next) := by
  unfold pushElement?
  cases innermost : state.innermost? with
  | none => simp
  | some place =>
    simp only [Option.bind_eq_bind, Option.bind_eq_some_iff, Option.pure_def, Option.some.injEq,
      reduceCtorEq, false_and, or_false]
    constructor
    · rintro ⟨book, begun, branch, found, changed, appended, rfl⟩
      cases branch with
      | leaf leaf => cases appended
      | branch kind condition body =>
        cases appended
        exact ⟨place, book, kind, condition, body, rfl, begun, found, rfl⟩
    · rintro ⟨_, book, kind, condition, body, rfl, begun, found, rfl⟩
      exact ⟨book, begun, _, found, _, rfl, rfl⟩

theorem pushBranch?_eq_some_iff {chapterAt sectionAt : Nat} {element : Element} {place : Place} :
    state.pushBranch? chapterAt sectionAt element = some (next, place) ↔ ∃ book here,
      state.book = some book ∧ book.sectionAt? chapterAt sectionAt = some here ∧
      next = { state with
        book := some (book.modifySection chapterAt sectionAt (·.addElement element)) } ∧
      place = ⟨chapterAt, sectionAt, here.elements.length⟩ := by
  simp only [pushBranch?, Option.bind_eq_bind, Option.bind_eq_some_iff, Option.pure_def,
    Option.some.injEq, Prod.mk.injEq]
  constructor
  · rintro ⟨book, begun, here, found, rfl, rfl⟩
    refine ⟨book, here, begun, found, ?_, by simp [Section.addElement]⟩
    rw [Book.modifySection_of_found (·.addElement element) found]
  · rintro ⟨book, here, begun, found, rfl, rfl⟩
    refine ⟨book, begun, here, found, ?_, by simp [Section.addElement]⟩
    rw [Book.modifySection_of_found (·.addElement element) found]

theorem pushChapter?_eq_some_iff {chapter : Chapter} :
    state.pushChapter? chapter = some next ↔ ∃ book, state.book = some book ∧
      next = { state with
        book := some (book.addChapter chapter)
        chapterAt := some book.chapters.length
        sectionAt := none } := by
  simp only [pushChapter?, Option.bind_eq_bind, Option.bind_eq_some_iff, Option.pure_def,
    Option.some.injEq, Book.addChapter, List.length_append, List.length_singleton,
    Nat.add_sub_cancel]
  constructor <;> rintro ⟨book, begun, rfl⟩ <;> exact ⟨book, begun, rfl⟩

theorem pushSection?_eq_some_iff {here : Section} :
    state.pushSection? here = some next ↔ ∃ book chapterAt chapter, state.book = some book ∧
      state.chapterAt = some chapterAt ∧ book.chapters[chapterAt]? = some chapter ∧
      next = { state with
        book := some (book.modifyChapter chapterAt (·.addSection here))
        sectionAt := some chapter.sections.length } := by
  have last (chapter : Chapter) :
      (chapter.addSection here).sections.length - 1 = chapter.sections.length := by
    simp [Chapter.addSection]
  simp only [pushSection?, Option.bind_eq_bind, Option.bind_eq_some_iff, Option.pure_def,
    Option.some.injEq, last]
  constructor
  · rintro ⟨chapterAt, current, book, begun, chapter, found, rfl⟩
    refine ⟨book, chapterAt, chapter, begun, current, found, ?_⟩
    rw [Book.modifyChapter_of_found (·.addSection here) found]
  · rintro ⟨book, chapterAt, chapter, begun, current, found, rfl⟩
    refine ⟨chapterAt, current, book, begun, chapter, found, ?_⟩
    rw [Book.modifyChapter_of_found (·.addSection here) found]

end State

end Gamebook.Script
