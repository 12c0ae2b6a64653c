import Gamebook.Proofs.Pointers

/-!
# Coherence of every state

Every addition keeps the pointers of a state right, so every step does
(`step_coherent`), and so does every run (`run_coherent`).

In a coherent state an addition always finds what it is added to.  The checks of
a directive are about pointers and not about the book, but a directive that
passes them changes the book (`State.Coherent.losesNothing`).
-/

namespace Gamebook.Script

open Gamebook.Story

namespace State

variable {state next : State}

/-! ## Additions -/

/-- A book has to begin before anything can point into it. -/
theorem Coherent.unbegun (coherent : state.Coherent) (unbegun : state.book = none) :
    state.chapterAt = none ∧ state.sectionAt = none ∧ state.openIf = none ∧
      state.openElse = none ∧ state.opener = none := by
  have noChapter : state.chapterAt = none := by
    cases current : state.chapterAt with
    | none => rfl
    | some index => simpa [unbegun] using coherent.book_of_chapter (by simp [current])
  have noSection : state.sectionAt = none := by
    cases current : state.sectionAt with
    | none => rfl
    | some index => simpa [noChapter] using coherent.chapter_of_section (by simp [current])
  have noIf : state.openIf = none := by
    cases opened : state.openIf with
    | none => rfl
    | some place =>
      obtain ⟨condition, body, found⟩ := coherent.openIf_found place opened
      simp [elementAt?, unbegun] at found
  have noElse := coherent.openElse_eq_none noIf
  refine ⟨noChapter, noSection, noIf, noElse, ?_⟩
  simpa [noIf] using coherent.opener_iff

theorem Coherent.of_modifySection? (change : Section → Section) (coherent : state.Coherent)
    (sameId : ∀ here, (change here).id = here.id)
    (more : ∀ here, ∃ added, (change here).elements = here.elements ++ added)
    (changed : state.modifySection? change = some next) : next.Coherent := by
  obtain ⟨book, chapterAt, sectionAt, here, begun, -, -, -, rfl⟩ :=
    modifySection?_eq_some_iff.mp changed
  exact coherent.grow begun
    ⟨rfl, Book.outline_modifySection sameId, Book.keepsBranches_modifySection more⟩

theorem Coherent.of_pushLink? {link : Link} (coherent : state.Coherent)
    (pushed : state.pushLink? link = some next) : next.Coherent :=
  coherent.of_modifySection? (·.addLink link) (fun _ => rfl)
    (fun _ => ⟨[], by simp [Section.addLink]⟩) pushed

/-- An element that has been added leaves the state coherent, in a branch as in a section. -/
theorem Coherent.of_pushElement? {element : Element} (coherent : state.Coherent)
    (pushed : state.pushElement? element = some next) : next.Coherent := by
  rcases pushElement?_eq_some_iff.mp pushed with
    ⟨place, book, kind, condition, body, -, begun, found, rfl⟩ | ⟨-, changed⟩
  · refine coherent.grow begun ⟨rfl, Book.outline_modifySection fun _ => rfl, ?_⟩
    refine Book.keepsBranches_modifyElement ?_
    intro kind' condition' body' found'
    obtain ⟨rfl, rfl, rfl⟩ : kind = kind' ∧ condition = condition' ∧ body = body' := by
      simpa [found] using found'
    exact ⟨body ++ [element], rfl⟩
  · exact coherent.of_modifySection? (·.addElement element) (fun _ => rfl)
      (fun _ => ⟨[element], rfl⟩) changed

/-- What is in the section after a branch went there: the branch at its place,
and all else as before. -/
theorem Coherent.of_pushBranch? {chapterAt sectionAt : Nat} {element : Element} {place : Place}
    (coherent : state.Coherent)
    (pushed : state.pushBranch? chapterAt sectionAt element = some (next, place)) :
    next.Coherent ∧ next.elementAt? place = some element ∧
      next.openIf = state.openIf ∧ next.openElse = state.openElse ∧
      next.openCondition? = state.openCondition? := by
  obtain ⟨book, here, begun, found, rfl, rfl⟩ := pushBranch?_eq_some_iff.mp pushed
  have keeps : book.KeepsBranches
      (book.modifySection chapterAt sectionAt (·.addElement element)) :=
    Book.keepsBranches_modifySection fun _ => ⟨[element], rfl⟩
  refine ⟨coherent.grow begun ⟨rfl, Book.outline_modifySection fun _ => rfl, keeps⟩, ?_, rfl, rfl,
    coherent.openCondition?_eq begun rfl keeps rfl⟩
  simpa [elementAt?] using Book.elementAt?_addElement element found

theorem Coherent.of_pushChapter? {chapter : Chapter} (coherent : state.Coherent)
    (empty : chapter.sections = []) (pushed : state.pushChapter? chapter = some next) :
    next.Coherent := by
  obtain ⟨book, begun, rfl⟩ := pushChapter?_eq_some_iff.mp pushed
  refine ⟨?_, coherent.toBranching.keep begun rfl (Book.keepsBranches_addChapter chapter)
    rfl rfl rfl⟩
  constructor
  · nofun
  · exact fun _ => rfl
  · rintro _ ⟨⟩
    simp [Book.addChapter]
  · intro last found
    obtain rfl : chapter = last := by simpa [chapter?, Book.addChapter] using found
    simp [empty]
  · intro pending waiting
    have ready := coherent.pending_ready pending waiting
    exact ready.keep (by simp [begun]) rfl fun _ => rfl

theorem Coherent.of_pushSection? {here : Section} (coherent : state.Coherent)
    (pushed : state.pushSection? here = some next) : next.Coherent := by
  obtain ⟨book, chapterAt, chapter, begun, current, found, rfl⟩ :=
    pushSection?_eq_some_iff.mp pushed
  refine ⟨?_, coherent.toBranching.keep begun rfl (Book.keepsBranches_addSection chapterAt here)
    rfl rfl rfl⟩
  constructor
  · exact fun _ => by simp [current]
  · exact fun _ => rfl
  · rintro _ ⟨⟩
    rw [coherent.chapterAt_eq book begun]
    exact lastIndex?_eq_of_length_eq (by simp [Book.modifyChapter])
  · intro last lastFound
    obtain rfl : chapter.addSection here = last := by
      simpa [chapter?, current, Book.getElem?_modifyChapter, found] using lastFound
    simp [Chapter.addSection]
  · intro pending waiting
    have ready := coherent.pending_ready pending waiting
    exact ready.keep (by simp [begun]) rfl id

/-! ## Additions find what they are added to -/

section Found

variable (coherent : state.Coherent)

theorem exists_pushChapter? (state : State) (begun : state.book.isSome) (chapter : Chapter) :
    ∃ next, state.pushChapter? chapter = some next := by
  obtain ⟨book, begun⟩ := Option.isSome_iff_exists.mp begun
  exact ⟨_, pushChapter?_eq_some_iff.mpr ⟨book, begun, rfl⟩⟩

include coherent

theorem Coherent.exists_pushSection? (current : state.chapterAt.isSome) (here : Section) :
    ∃ next, state.pushSection? here = some next := by
  obtain ⟨chapterAt, current⟩ := Option.isSome_iff_exists.mp current
  obtain ⟨book, chapter, begun, found⟩ := coherent.chapter_found current
  exact ⟨_, pushSection?_eq_some_iff.mpr ⟨book, chapterAt, chapter, begun, current, found, rfl⟩⟩

theorem Coherent.exists_modifySection? (current : state.sectionAt.isSome)
    (change : Section → Section) : ∃ next, state.modifySection? change = some next := by
  obtain ⟨sectionAt, current⟩ := Option.isSome_iff_exists.mp current
  obtain ⟨book, chapterAt, here, begun, chapterCurrent, found⟩ := coherent.section_found current
  exact ⟨_, modifySection?_eq_some_iff.mpr
    ⟨book, chapterAt, sectionAt, here, begun, chapterCurrent, current, found, rfl⟩⟩

theorem Coherent.exists_pushBranch? {chapterAt sectionAt : Nat}
    (chapterCurrent : state.chapterAt = some chapterAt)
    (sectionCurrent : state.sectionAt = some sectionAt) (element : Element) :
    ∃ next place, state.pushBranch? chapterAt sectionAt element = some (next, place) := by
  obtain ⟨book, _, here, begun, current, found⟩ := coherent.section_found sectionCurrent
  obtain rfl := Option.some.inj (current.symm.trans chapterCurrent)
  exact ⟨_, _, pushBranch?_eq_some_iff.mpr ⟨book, here, begun, found, rfl, rfl⟩⟩

theorem Coherent.section?_isSome (current : state.sectionAt.isSome) : state.section?.isSome := by
  obtain ⟨sectionAt, current⟩ := Option.isSome_iff_exists.mp current
  obtain ⟨book, chapterAt, here, begun, chapterCurrent, found⟩ := coherent.section_found current
  obtain ⟨chapter, chapterFound, sectionFound⟩ := Option.bind_eq_some_iff.mp found
  simp [section?, chapter?, begun, chapterCurrent, chapterFound, current, sectionFound]

theorem Coherent.exists_pushElement? (container : state.hasContainer = true)
    (element : Element) : ∃ next, state.pushElement? element = some next := by
  cases innermost : state.innermost? with
  | some place =>
    obtain ⟨book, kind, condition, body, begun, found⟩ := coherent.innermost_found innermost
    exact ⟨_, pushElement?_eq_some_iff.mpr
      (.inl ⟨place, book, kind, condition, body, innermost, begun, found, rfl⟩)⟩
  | none =>
    have current : state.sectionAt.isSome := by
      cases current : state.sectionAt <;> simp_all [hasContainer, section?]
    obtain ⟨next, changed⟩ := coherent.exists_modifySection? current (·.addElement element)
    exact ⟨next, pushElement?_eq_some_iff.mpr (.inr ⟨innermost, changed⟩)⟩

end Found

/-! ## Openings and closings -/

/-- Coherence does not depend on the position, and only the heading that waits
has to be where it may stand. -/
theorem Coherent.relabel (coherent : state.Coherent) (position : Nat) (pending : Option Pending)
    (ready : ∀ waiting, pending = some waiting → waiting.heading.Ready state) :
    ({ state with position := position, pending := pending } : State).Coherent where
  chapter_of_section := coherent.chapter_of_section
  book_of_chapter := coherent.book_of_chapter
  chapterAt_eq := coherent.chapterAt_eq
  sectionAt_eq := coherent.sectionAt_eq
  pending_ready := ready
  if_of_else := coherent.if_of_else
  openIf_found := coherent.openIf_found
  openElse_found := coherent.openElse_found
  opener_iff := coherent.opener_iff
  opener_reads := coherent.opener_reads

/-- Which branch is open does not matter to the pointers to chapter and section. -/
theorem Situated.reopen (situated : state.Situated) (openIf openElse : Option Place)
    (opener : Option Token) :
    ({ state with openIf := openIf, openElse := openElse, opener := opener } : State).Situated where
  chapter_of_section := situated.chapter_of_section
  book_of_chapter := situated.book_of_chapter
  chapterAt_eq := situated.chapterAt_eq
  sectionAt_eq := situated.sectionAt_eq
  pending_ready := situated.pending_ready

theorem Coherent.of_advance (coherent : state.Coherent) : state.advance.Coherent :=
  coherent.relabel _ _ coherent.pending_ready

theorem Coherent.of_await (coherent : state.Coherent) (heading : Heading) (token : Token)
    (ready : heading.Ready state) : (state.await heading token).Coherent := by
  refine coherent.relabel _ _ ?_
  rintro _ ⟨⟩
  exact ready

/-- A pending heading gets its title: its chapter or section is added. -/
theorem Coherent.of_entitle {heading : Heading} {title : String} (coherent : state.Coherent)
    (ready : heading.Ready state) : (state.entitle heading title).Coherent := by
  have settled := coherent.relabel (state.position + 2) none nofun
  cases heading with
  | ofBook =>
    obtain ⟨noChapter, noSection, noIf, noElse, noOpener⟩ := coherent.unbegun ready
    constructor <;> constructor <;>
      simp [entitle, noChapter, noSection, noIf, noElse, noOpener, chapter?]
  | ofChapter id =>
    obtain ⟨next, pushed⟩ := exists_pushChapter?
      { state with position := state.position + 2, pending := none } ready ⟨id, title, []⟩
    simpa [entitle, pushed] using settled.of_pushChapter? rfl pushed
  | ofSection id =>
    obtain ⟨next, pushed⟩ := settled.exists_pushSection? ready ⟨id, title, [], []⟩
    simpa [entitle, pushed] using settled.of_pushSection? pushed

/-- Opening a branch keeps the state coherent: the new pointer leads to the branch. -/
theorem Coherent.of_beginIf {chapterAt sectionAt : Nat} {token : Token}
    (coherent : state.Coherent) (closed : state.openIf = none)
    (chapterCurrent : state.chapterAt = some chapterAt)
    (sectionCurrent : state.sectionAt = some sectionAt) (isDirective : token.kind = .directive)
    (reads : token.reading.keyword? = some .openIf) :
    (state.beginIf chapterAt sectionAt (token.reading.rest 0) token).Coherent := by
  obtain ⟨next, place, pushed⟩ := coherent.exists_pushBranch? chapterCurrent sectionCurrent
    (.branch .ifBranch (token.reading.rest 0) [])
  obtain ⟨added, atPlace, -, sameElse, -⟩ := coherent.of_pushBranch? pushed
  have noElse := coherent.openElse_eq_none closed
  simp only [beginIf, pushed]
  refine ⟨added.toSituated.reopen _ _ _, ?_⟩
  constructor
  · exact fun _ => rfl
  · rintro _ ⟨⟩
    exact ⟨_, _, atPlace⟩
  · simp [sameElse, noElse]
  · simp
  · rintro _ ⟨⟩
    exact ⟨isDirective, reads, openCondition?_eq_some_iff.mpr ⟨_, [], rfl, atPlace⟩⟩

theorem Coherent.of_beginElse {chapterAt sectionAt : Nat} {condition : String}
    (coherent : state.Coherent) (known : state.openCondition? = some condition)
    (chapterCurrent : state.chapterAt = some chapterAt)
    (sectionCurrent : state.sectionAt = some sectionAt) :
    (state.beginElse chapterAt sectionAt condition).Coherent := by
  obtain ⟨next, place, pushed⟩ := coherent.exists_pushBranch? chapterCurrent sectionCurrent
    (.branch .elseBranch condition [])
  obtain ⟨added, atPlace, sameIf, -, sameCondition⟩ := coherent.of_pushBranch? pushed
  obtain ⟨opened, -, isOpen, -⟩ := openCondition?_eq_some_iff.mp known
  simp only [beginElse, pushed]
  refine ⟨added.toSituated.reopen _ _ _, ?_⟩
  constructor
  · exact fun _ => by simp [sameIf, isOpen]
  · exact added.openIf_found
  · rintro _ ⟨⟩
    exact ⟨condition, [], atPlace, sameCondition.trans known⟩
  · exact added.opener_iff
  · exact added.opener_reads

theorem Coherent.of_endIf (coherent : state.Coherent) : state.endIf.Coherent := by
  refine ⟨coherent.toSituated.reopen _ _ _, ?_⟩
  constructor <;> simp [endIf]

end State

/-! ## Steps and runs -/

variable {mode : Mode} {state next : State} {token : Token}

/-- Before the book, a directive of the vocabulary that passes the first check
opens the book. -/
theorem begun_of_checkBookFirst {keyword : Keyword} (passed : state.checkBookFirst token = .ok ())
    (isDirective : token.kind = .directive) (reads : token.reading.keyword? = some keyword)
    (other : keyword ≠ .openBook) : state.book.isSome := by
  cases begun : state.book with
  | some book => rfl
  | none =>
    cases keyword <;> simp [State.checkBookFirst, begun, isDirective, reads] at passed other

theorem directiveStep_coherent {keyword : Keyword} (coherent : state.Coherent)
    (passed : state.checkBookFirst token = .ok ()) (isDirective : token.kind = .directive)
    (reads : token.reading.keyword? = some keyword)
    (stepped : directiveStep mode state token token.reading keyword = .ok next) :
    next.Coherent := by
  cases keyword <;> simp only [directiveStep, bind_eq_ok_iff, forbid_eq_ok_iff,
    demand_eq_ok_iff, pure, Except.pure, Except.ok.injEq] at stepped
  case openBook =>
    obtain ⟨_, unbegun, rfl⟩ := stepped
    exact coherent.of_await .ofBook token (by simpa [Heading.Ready] using unbegun)
  case openChapter =>
    obtain ⟨_, _, id, _, rfl⟩ := stepped
    exact coherent.of_await (.ofChapter id) token
      (begun_of_checkBookFirst passed isDirective reads (by decide))
  case openSection =>
    obtain ⟨_, current, _, _, id, _, rfl⟩ := stepped
    exact coherent.of_await (.ofSection id) token
      (by simpa [Heading.Ready, Option.isSome_iff_ne_none] using current)
  case next =>
    obtain ⟨chapter, _, target, _, added, pushed, rfl⟩ := stepped
    exact (coherent.of_pushLink? pushed).of_advance
  case jump =>
    obtain ⟨_, _, chapterId, _, target, _, added, pushed, rfl⟩ := stepped
    exact (coherent.of_pushLink? pushed).of_advance
  case state =>
    obtain ⟨_, _, id, _, modifier, _, added, pushed, rfl⟩ := stepped
    exact (coherent.of_pushElement? pushed).of_advance
  case item =>
    obtain ⟨_, _, leaf, _, added, pushed, rfl⟩ := stepped
    exact (coherent.of_pushElement? pushed).of_advance
  case openIf =>
    obtain ⟨_, closed, chapterAt, chapterCurrent, sectionAt, sectionCurrent, _, _, rfl⟩ := stepped
    exact (coherent.of_beginIf (by simpa using closed) chapterCurrent sectionCurrent
      isDirective reads).of_advance
  case openElse =>
    obtain ⟨_, isOpen, _, _, chapterAt, chapterCurrent, sectionAt, sectionCurrent, rfl⟩ := stepped
    obtain ⟨condition, known⟩ := coherent.condition_found
      (by simpa [Option.isSome_iff_ne_none] using isOpen)
    simp only [known, Option.getD_some]
    exact (coherent.of_beginElse known chapterCurrent sectionCurrent).of_advance
  case closeIf =>
    obtain ⟨_, _, rfl⟩ := stepped
    exact coherent.of_endIf.of_advance

/-- What one step keeps. -/
theorem step_coherent (coherent : state.Coherent) (stepped : step mode state token = .ok next) :
    next.Coherent := by
  unfold step at stepped
  split at stepped
  next pending waiting isParagraph =>
    cases stepped
    exact coherent.of_entitle (coherent.pending_ready pending waiting)
  next => cases stepped
  next settled isParagraph =>
    simp only [paragraphStep, bind_eq_ok_iff, demand_eq_ok_iff, pure, Except.pure,
      Except.ok.injEq] at stepped
    obtain ⟨_, _, added, pushed, rfl⟩ := stepped
    exact (coherent.of_pushElement? pushed).of_advance
  next settled isDirective =>
    simp only [commandStep, bind_eq_ok_iff, demand_eq_ok_iff] at stepped
    obtain ⟨_, passed, keyword, reads, stepped⟩ := stepped
    exact directiveStep_coherent coherent passed isDirective reads stepped

theorem initial_coherent : State.initial.Coherent := by
  constructor <;> constructor <;> simp [State.initial, State.chapter?]

/-- What a run keeps. -/
theorem run_coherent {tokens : List Token} (coherent : state.Coherent)
    (ran : run mode state tokens = .ok next) : next.Coherent := by
  induction tokens generalizing state with
  | nil =>
    cases ran
    exact coherent
  | cons token rest ih =>
    unfold run at ran
    split at ran
    next => cases ran
    next middle stepped => exact ih (step_coherent coherent stepped) ran

/-! ## Nothing is lost -/

/-- What a step adds after its checks gets into the book, and what it looks up is
there. -/
structure State.LosesNothing (state : State) : Prop where
  /-- A chapter is added with its title. -/
  chapter_added : ∀ id token title, state.pending = some ⟨.ofChapter id, token⟩ →
    ∃ book, state.book = some book ∧
      (state.entitle (.ofChapter id) title).book = some (book.addChapter ⟨id, title, []⟩)
  /-- A section is added with its title. -/
  section_added : ∀ id token title, state.pending = some ⟨.ofSection id, token⟩ →
    ∃ book chapterAt, state.book = some book ∧ state.chapterAt = some chapterAt ∧
      (state.entitle (.ofSection id) title).book =
        some (book.modifyChapter chapterAt (·.addSection ⟨id, title, [], []⟩))
  /-- A branch is added to the current section, and it is open then. -/
  if_added : ∀ chapterAt sectionAt condition token, state.chapterAt = some chapterAt →
    state.sectionAt = some sectionAt → ∃ book, state.book = some book ∧
      (state.beginIf chapterAt sectionAt condition token).book =
        some (book.modifySection chapterAt sectionAt
          (·.addElement (.branch .ifBranch condition []))) ∧
      (state.beginIf chapterAt sectionAt condition token).openIf.isSome
  /-- An alternative is added to the current section, and it is open then. -/
  else_added : ∀ chapterAt sectionAt condition, state.chapterAt = some chapterAt →
    state.sectionAt = some sectionAt → ∃ book, state.book = some book ∧
      (state.beginElse chapterAt sectionAt condition).book =
        some (book.modifySection chapterAt sectionAt
          (·.addElement (.branch .elseBranch condition []))) ∧
      (state.beginElse chapterAt sectionAt condition).openElse.isSome
  /-- Where there is a container, elements go into it. -/
  element_added : state.hasContainer → ∀ element, (state.pushElement? element).isSome
  /-- A current section is a container. -/
  section_contains : state.sectionAt.isSome → state.hasContainer
  /-- Where there is a current section, links go into it. -/
  link_added : state.sectionAt.isSome → ∀ link, (state.pushLink? link).isSome
  /-- A current chapter is found. -/
  chapter_found : state.chapterAt.isSome → state.chapter?.isSome
  /-- A current section is found. -/
  section_found : state.sectionAt.isSome → state.section?.isSome
  /-- The condition of an open branch is found. -/
  condition_found : state.openIf.isSome → state.openCondition?.isSome
  /-- No alternative is open without its branch. -/
  else_nested : state.openElse = none ∨ state.openIf.isSome

theorem State.entitle_ofChapter {book : Book} (id title : String)
    (begun : state.book = some book) :
    state.entitle (.ofChapter id) title = { state with
      position := state.position + 2
      book := some (book.addChapter ⟨id, title, []⟩)
      chapterAt := some book.chapters.length
      sectionAt := none
      pending := none } := by
  simp [State.entitle, State.pushChapter?, begun, Book.addChapter]

theorem State.entitle_ofSection {book : Book} {chapterAt : Nat} {chapter : Chapter}
    (id title : String) (begun : state.book = some book)
    (current : state.chapterAt = some chapterAt)
    (found : book.chapters[chapterAt]? = some chapter) :
    state.entitle (.ofSection id) title = { state with
      position := state.position + 2
      book := some (book.modifyChapter chapterAt (·.addSection ⟨id, title, [], []⟩))
      sectionAt := some chapter.sections.length
      pending := none } := by
  have same := Book.modifyChapter_of_found (·.addSection ⟨id, title, [], []⟩) found
  simp only [State.entitle, State.pushSection?, begun, current, found, Option.bind_eq_bind,
    Option.bind_some, Option.pure_def, Option.getD_some, same]
  simp [Chapter.addSection]

namespace State.Coherent

variable (coherent : state.Coherent)

include coherent

theorem pushBranch?_eq {chapterAt sectionAt : Nat}
    (chapterCurrent : state.chapterAt = some chapterAt)
    (sectionCurrent : state.sectionAt = some sectionAt) (element : Element) :
    ∃ book here, state.book = some book ∧ book.sectionAt? chapterAt sectionAt = some here ∧
      state.pushBranch? chapterAt sectionAt element =
        some ({ state with
            book := some (book.modifySection chapterAt sectionAt (·.addElement element)) },
          ⟨chapterAt, sectionAt, here.elements.length⟩) := by
  obtain ⟨next, place, pushed⟩ := coherent.exists_pushBranch? chapterCurrent sectionCurrent element
  obtain ⟨book, here, begun, found, rfl, rfl⟩ := pushBranch?_eq_some_iff.mp pushed
  exact ⟨book, here, begun, found, pushed⟩

theorem losesNothing : state.LosesNothing where
  chapter_added := by
    intro id token title waiting
    obtain ⟨book, begun⟩ := Option.isSome_iff_exists.mp (coherent.pending_ready _ waiting)
    exact ⟨book, begun, by rw [State.entitle_ofChapter id title begun]⟩
  section_added := by
    intro id token title waiting
    obtain ⟨chapterAt, current⟩ := Option.isSome_iff_exists.mp (coherent.pending_ready _ waiting)
    obtain ⟨book, chapter, begun, found⟩ := coherent.chapter_found current
    exact ⟨book, chapterAt, begun, current, by
      rw [State.entitle_ofSection id title begun current found]⟩
  if_added := by
    intro chapterAt sectionAt condition token chapterCurrent sectionCurrent
    obtain ⟨book, here, begun, -, pushed⟩ := coherent.pushBranch?_eq chapterCurrent
      sectionCurrent (.branch .ifBranch condition [])
    exact ⟨book, begun, by simp [State.beginIf, pushed]⟩
  else_added := by
    intro chapterAt sectionAt condition chapterCurrent sectionCurrent
    obtain ⟨book, here, begun, -, pushed⟩ := coherent.pushBranch?_eq chapterCurrent
      sectionCurrent (.branch .elseBranch condition [])
    exact ⟨book, begun, by simp [State.beginElse, pushed]⟩
  element_added := fun container element =>
    Option.isSome_iff_exists.mpr (coherent.exists_pushElement? container element)
  section_contains := fun current => by
    simp [State.hasContainer, coherent.section?_isSome current]
  link_added := fun current link =>
    Option.isSome_iff_exists.mpr (coherent.exists_modifySection? current (·.addLink link))
  chapter_found := by
    intro current
    obtain ⟨chapterAt, current⟩ := Option.isSome_iff_exists.mp current
    obtain ⟨book, chapter, begun, found⟩ := coherent.chapter_found current
    simp [State.chapter?, begun, current, found]
  section_found := coherent.section?_isSome
  condition_found := fun isOpen =>
    Option.isSome_iff_exists.mpr (coherent.condition_found isOpen)
  else_nested := by
    cases opened : state.openElse with
    | none => exact .inl rfl
    | some place => exact .inr (coherent.if_of_else (by simp [opened]))

end State.Coherent

/-- After any tokens that could be done with, in either mode, the pointers are
right, and whatever comes next loses nothing. -/
theorem pointers_after_run {tokens : List Token} (ran : run mode .initial tokens = .ok state) :
    state.Coherent ∧ state.LosesNothing :=
  have coherent := run_coherent initial_coherent ran
  ⟨coherent, coherent.losesNothing⟩

/-- A branch that is still open in the next chapter. -/
theorem pointers_after_open_chapter :
    ∃ state, run .lenient .initial
        [.directive "book" 1, .paragraph "T" 2, .directive "chapter c" 3, .paragraph "C" 4,
          .directive "section s" 5, .paragraph "S" 6, .directive "if x" 7,
          .directive "chapter d" 8, .paragraph "D" 9] = .ok state ∧
      state.openIf = some ⟨0, 0, 0⟩ ∧ state.chapterAt = some 1 ∧
      (state.Coherent ∧ state.LosesNothing) := by
  have ran : run .lenient .initial
      [.directive "book" 1, .paragraph "T" 2, .directive "chapter c" 3, .paragraph "C" 4,
        .directive "section s" 5, .paragraph "S" 6, .directive "if x" 7,
        .directive "chapter d" 8, .paragraph "D" 9] =
      .ok ⟨9, some ⟨"T",
          [⟨"c", "C", [⟨"s", "S", [.branch .ifBranch "x" []], []⟩]⟩, ⟨"d", "D", []⟩]⟩,
        some 1, none, some ⟨0, 0, 0⟩, none, some (.directive "if x" 7), none⟩ := by
    rfl
  exact ⟨_, ran, rfl, rfl, pointers_after_run ran⟩

end Gamebook.Script
