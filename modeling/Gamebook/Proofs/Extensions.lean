import Gamebook.Proofs.Census
import Gamebook.Proofs.Simulation

/-!
# What more tokens do to a book

Where tokens give a book, and these tokens with more behind them give one too,
the second book has everything of the first at its place.  A book only ever
grows, and only where a pointer points: behind the last chapter, behind the last
section of it, behind the elements and links of that section, and in the
innermost open branch.  The open branch need not be in the last section.

`Book.Extends` says this of any two books, for given pointers.  It is reflexive
and transitive for pointers that stay, so it is enough that each of the four
places a growth goes to is one of these (`Book.extends_receive`).
-/

namespace Gamebook.Story

/-! ## Elements, sections and chapters -/

/-- What an element can become by growing: a branch gets more behind its body. -/
inductive Element.GrowsTo : Element → Element → Prop where
  /-- A leaf is what it was. -/
  | leaf (leaf : Leaf) : GrowsTo (.leaf leaf) (.leaf leaf)
  /-- A branch keeps its kind, its condition and what is in its body. -/
  | branch (kind : BranchKind) (condition : String) {body more : List Element}
      (kept : body <+: more) : GrowsTo (.branch kind condition body) (.branch kind condition more)

/-- What a section can become by growing, where it gets more elements or links
only if it is the current one. -/
structure Section.GrowsTo (here : Section) (isCurrent : Prop) (later : Section) : Prop where
  /-- The id is the same. -/
  id : later.id = here.id
  /-- The title is the same. -/
  title : later.title = here.title
  /-- The links are there, in front. -/
  links : here.links <+: later.links
  /-- Elsewhere there are no more of them. -/
  links_kept : ¬isCurrent → later.links = here.links
  /-- Elsewhere there are no more elements. -/
  elements_kept : ¬isCurrent → later.elements.length = here.elements.length

/-- What a chapter can become by growing, where it gets more sections only if it
is the current one. -/
structure Chapter.GrowsTo (chapter : Chapter) (isCurrent : Prop) (later : Chapter) : Prop where
  /-- The id is the same. -/
  id : later.id = chapter.id
  /-- The title is the same. -/
  title : later.title = chapter.title
  /-- Elsewhere there are no more sections. -/
  sections_kept : ¬isCurrent → later.sections.length = chapter.sections.length

theorem Element.GrowsTo.refl (element : Element) : element.GrowsTo element := by
  cases element with
  | leaf leaf => exact .leaf leaf
  | branch kind condition body => exact .branch kind condition List.prefix_rfl

theorem Element.GrowsTo.trans {first second third : Element} (before : first.GrowsTo second)
    (after : second.GrowsTo third) : first.GrowsTo third := by
  cases before with
  | leaf leaf => exact after
  | branch kind condition kept =>
    cases after with
    | branch _ _ more => exact .branch kind condition (kept.trans more)

theorem Element.growsTo_extend (leaves : List Leaf) (element : Element) :
    element.GrowsTo (element.extend leaves) := by
  cases element with
  | leaf leaf => exact .leaf leaf
  | branch kind condition body => exact .branch kind condition (List.prefix_append _ _)

theorem Section.GrowsTo.refl (isCurrent : Prop) (here : Section) : here.GrowsTo isCurrent here :=
  ⟨rfl, rfl, List.prefix_rfl, fun _ => rfl, fun _ => rfl⟩

theorem Section.GrowsTo.trans {isCurrent : Prop} {first second third : Section}
    (before : first.GrowsTo isCurrent second) (after : second.GrowsTo isCurrent third) :
    first.GrowsTo isCurrent third where
  id := after.id.trans before.id
  title := after.title.trans before.title
  links := before.links.trans after.links
  links_kept := fun other => (after.links_kept other).trans (before.links_kept other)
  elements_kept := fun other => (after.elements_kept other).trans (before.elements_kept other)

theorem Chapter.GrowsTo.refl (isCurrent : Prop) (chapter : Chapter) :
    chapter.GrowsTo isCurrent chapter :=
  ⟨rfl, rfl, fun _ => rfl⟩

theorem Chapter.GrowsTo.trans {isCurrent : Prop} {first second third : Chapter}
    (before : first.GrowsTo isCurrent second) (after : second.GrowsTo isCurrent third) :
    first.GrowsTo isCurrent third where
  id := after.id.trans before.id
  title := after.title.trans before.title
  sections_kept := fun other => (after.sections_kept other).trans (before.sections_kept other)

/-! ## Books -/

namespace Book

/-- The later book has everything of this one at its address.  It has more only
behind the last chapter, in the chapter and the section that are current, and in
the body of the innermost open branch. -/
structure Extends (book : Book) (innermost : Option Place) (chapterAt sectionAt : Option Nat)
    (later : Book) : Prop where
  /-- The title is the same. -/
  title : later.title = book.title
  /-- The chapters are there. -/
  chapters : ∀ index (chapter : Chapter), book.chapters[index]? = some chapter →
    ∃ chapter', later.chapters[index]? = some chapter' ∧
      chapter.GrowsTo (chapterAt = some index) chapter'
  /-- The sections are there. -/
  sections : ∀ index position (here : Section), book.sectionAt? index position = some here →
    ∃ here', later.sectionAt? index position = some here' ∧
      here.GrowsTo (chapterAt = some index ∧ sectionAt = some position) here'
  /-- The elements are there, and only the open branch gets more in its body. -/
  elements : ∀ place (element : Element), book.elementAt? place = some element →
    ∃ element', later.elementAt? place = some element' ∧ element.GrowsTo element' ∧
      (innermost ≠ some place → element' = element)

variable {book later : Book} {innermost : Option Place} {chapterAt sectionAt : Option Nat}

theorem Extends.refl (book : Book) : book.Extends innermost chapterAt sectionAt book where
  title := rfl
  chapters := fun _ chapter found => ⟨chapter, found, .refl _ chapter⟩
  sections := fun _ _ here found => ⟨here, found, .refl _ here⟩
  elements := fun _ element found => ⟨element, found, .refl element, fun _ => rfl⟩

theorem Extends.trans {middle : Book} (before : book.Extends innermost chapterAt sectionAt middle)
    (after : middle.Extends innermost chapterAt sectionAt later) :
    book.Extends innermost chapterAt sectionAt later where
  title := after.title.trans before.title
  chapters := by
    intro index chapter found
    obtain ⟨chapter', found', grows⟩ := before.chapters index chapter found
    obtain ⟨chapter'', found'', grows'⟩ := after.chapters index chapter' found'
    exact ⟨chapter'', found'', grows.trans grows'⟩
  sections := by
    intro index position here found
    obtain ⟨here', found', grows⟩ := before.sections index position here found
    obtain ⟨here'', found'', grows'⟩ := after.sections index position here' found'
    exact ⟨here'', found'', grows.trans grows'⟩
  elements := by
    intro place element found
    obtain ⟨element', found', grows, kept⟩ := before.elements place element found
    obtain ⟨element'', found'', grows', kept'⟩ := after.elements place element' found'
    exact ⟨element'', found'', grows.trans grows',
      fun other => (kept' other).trans (kept other)⟩

/-! ## Additions at the pointers -/

theorem extends_receiveBody (leaves : List Leaf) :
    book.Extends innermost chapterAt sectionAt (book.receiveBody innermost leaves) := by
  cases innermost with
  | none => exact .refl book
  | some place =>
    show book.Extends (some place) chapterAt sectionAt (book.modifyElement place (.extend leaves))
    constructor
    · rfl
    · intro index chapter found
      rw [modifyElement, modifySection, getElem?_modifyChapter, found]
      refine ⟨_, rfl, ?_⟩
      split
      · exact ⟨rfl, rfl, fun _ => List.length_modify _ _ _⟩
      · exact .refl _ chapter
    · intro index position here found
      rw [modifyElement, sectionAt?_modifySection, found]
      refine ⟨_, rfl, ?_⟩
      split
      · exact ⟨rfl, rfl, List.prefix_rfl, fun _ => rfl, fun _ => List.length_modify _ _ _⟩
      · exact .refl _ here
    · intro other element found
      rw [elementAt?_modifyElement, found]
      refine ⟨_, rfl, ?_⟩
      split
      next same =>
        exact ⟨element.growsTo_extend leaves, fun differs => absurd (congrArg some same) differs⟩
      next => exact ⟨.refl element, fun _ => rfl⟩

theorem extends_receiveParts (elements : List Element) (links : List Link) :
    book.Extends innermost chapterAt sectionAt
      (book.receiveParts chapterAt sectionAt elements links) := by
  cases chapterAt with
  | none => exact .refl book
  | some chapterAt =>
  cases sectionAt with
  | none => exact .refl book
  | some sectionAt =>
    show book.Extends innermost (some chapterAt) (some sectionAt)
      (book.modifySection chapterAt sectionAt (.extend elements links))
    constructor
    · rfl
    · intro index chapter found
      rw [modifySection, getElem?_modifyChapter, found]
      refine ⟨_, rfl, ?_⟩
      split
      · exact ⟨rfl, rfl, fun _ => List.length_modify _ _ _⟩
      · exact .refl _ chapter
    · intro index position here found
      rw [sectionAt?_modifySection, found]
      refine ⟨_, rfl, ?_⟩
      split
      next current =>
        obtain ⟨rfl, rfl⟩ := current
        exact ⟨rfl, rfl, List.prefix_append _ _, fun other => absurd ⟨rfl, rfl⟩ other,
          fun other => absurd ⟨rfl, rfl⟩ other⟩
      next => exact .refl _ here
    · intro place element found
      refine ⟨element, ?_, .refl element, fun _ => rfl⟩
      obtain ⟨here, sectionFound, elementFound⟩ := Option.bind_eq_some_iff.mp found
      have inside := (List.getElem?_eq_some_iff.mp elementFound).1
      rw [elementAt?, sectionAt?_modifySection, sectionFound]
      split
      · simp [Section.extend, List.getElem?_append_left inside, elementFound]
      · simpa using elementFound

/-- Where every section is kept as it is, so is every element. -/
theorem Extends.of_sections (title : later.title = book.title)
    (chapters : ∀ index (chapter : Chapter), book.chapters[index]? = some chapter →
      ∃ chapter', later.chapters[index]? = some chapter' ∧
        chapter.GrowsTo (chapterAt = some index) chapter')
    (kept : ∀ index position here, book.sectionAt? index position = some here →
      later.sectionAt? index position = some here) :
    book.Extends innermost chapterAt sectionAt later where
  title := title
  chapters := chapters
  sections := fun index position here found =>
    ⟨here, kept index position here found, .refl _ here⟩
  elements := by
    intro place element found
    refine ⟨element, ?_, .refl element, fun _ => rfl⟩
    obtain ⟨here, sectionFound, elementFound⟩ := Option.bind_eq_some_iff.mp found
    rw [elementAt?, kept _ _ here sectionFound]
    exact elementFound

theorem extends_receiveSections (sections : List Section) :
    book.Extends innermost chapterAt sectionAt (book.receiveSections chapterAt sections) := by
  cases chapterAt with
  | none => exact .refl book
  | some chapterAt =>
    show book.Extends innermost (some chapterAt) sectionAt
      (book.modifyChapter chapterAt (.extend sections))
    refine .of_sections rfl ?_ ?_
    · intro index chapter found
      rw [getElem?_modifyChapter, found]
      refine ⟨_, rfl, ?_⟩
      split
      next same => exact ⟨rfl, rfl, fun other => absurd (congrArg some same) other⟩
      next => exact .refl _ chapter
    · intro index position here found
      obtain ⟨chapter, chapterFound, sectionFound⟩ := Option.bind_eq_some_iff.mp found
      have inside := (List.getElem?_eq_some_iff.mp sectionFound).1
      rw [sectionAt?, getElem?_modifyChapter, chapterFound]
      split
      · simp [Chapter.extend, List.getElem?_append_left inside, sectionFound]
      · simpa using sectionFound

theorem extends_append (added : List Chapter) :
    book.Extends innermost chapterAt sectionAt
      { book with chapters := book.chapters ++ added } := by
  have kept (index : Nat) (chapter : Chapter) (found : book.chapters[index]? = some chapter) :
      (book.chapters ++ added)[index]? = some chapter := by
    rw [List.getElem?_append_left (List.getElem?_eq_some_iff.mp found).1, found]
  refine .of_sections rfl ?_ ?_
  · intro index chapter found
    exact ⟨chapter, kept index chapter found, .refl _ chapter⟩
  · intro index position here found
    obtain ⟨chapter, chapterFound, sectionFound⟩ := Option.bind_eq_some_iff.mp found
    rw [sectionAt?, kept index chapter chapterFound]
    exact sectionFound

/-- A growth goes to the pointers. -/
theorem extends_receive (growth : Gamebook.Script.Growth) :
    book.Extends innermost chapterAt sectionAt
      (book.receive innermost chapterAt sectionAt growth) :=
  (extends_receiveBody growth.body).trans
    ((extends_receiveParts growth.elements growth.links).trans
      ((extends_receiveSections growth.sections).trans (extends_append growth.chapters)))

end Book

end Gamebook.Story

namespace Gamebook.Script

open Gamebook.Story

variable {mode : Mode} {tokens more : List Token} {state last : State} {book later : Book}

/-! ## Runs -/

/-- No move but the title of the book changes the title of the book. -/
theorem Ledger.Moves.title_eq {ledger next : Ledger} {token : Token} {entry : Option Entry}
    {title : String} (moves : Moves mode ledger token next entry) (untitled : ledger.Untitled)
    (titled : ledger.title = some title) : next.title = some title := by
  cases moves with
  | @title pending waiting =>
    obtain ⟨heading, opening⟩ := pending
    cases heading with
    | ofBook =>
      have unbegun := untitled opening waiting
      rw [unbegun] at titled
      cases titled
    | ofChapter id => exact titled
    | ofSection id => exact titled
  | _ => exact titled

/-- The title of a book is given once. -/
theorem Ledger.title_of_run {ledger last : Ledger} {entries : List Entry} {title : String}
    (untitled : ledger.Untitled) (titled : ledger.title = some title)
    (ran : run mode ledger tokens = .ok (last, entries)) : last.title = some title := by
  have kept : last.Untitled ∧ last.title = some title :=
    run_preserves (fun ledger => ledger.Untitled ∧ ledger.title = some title)
      (fun moves kept => ⟨moves.untitled, moves.title_eq kept.1 kept.2⟩) ⟨untitled, titled⟩ ran
  exact kept.2

theorem of_finish_eq_ok (finished : finish mode state = .ok book) :
    state.book = some book ∧ state.pending = none := by
  unfold finish at finished
  split at finished
  next => cases finished
  next settled =>
    split at finished
    next => cases finished
    next =>
      split at finished
      next begun =>
        cases finished
        exact ⟨begun, settled⟩
      next => cases finished

/-- Where tokens give a book, their run ends with it. -/
theorem exists_run_of_parse (parsed : (parse mode tokens).result = .ok book) :
    ∃ state, run mode .initial tokens = .ok state ∧ state.book = some book ∧
      state.pending = none := by
  unfold parse at parsed
  split at parsed
  next => cases parsed
  next =>
    split at parsed
    next => cases parsed
    next state ran =>
      split at parsed
      next => cases parsed
      next made finished =>
        cases parsed
        exact ⟨state, ran, of_finish_eq_ok finished⟩

/-- A run goes on growing the book that it starts with, at the pointers that it
starts with. -/
theorem extends_of_run (coherent : state.Coherent) (settled : state.pending = none)
    (begun : state.book = some book) (ran : run mode state tokens = .ok last)
    (ended : last.book = some later) :
    book.Extends state.innermost? state.chapterAt state.sectionAt later := by
  have agrees : RunsAgree state (run mode state tokens) (Ledger.run mode state.ledger tokens) :=
    run_agrees coherent tokens
  rw [ran] at agrees
  generalize recorded : Ledger.run mode state.ledger tokens = outcome at agrees
  cases agrees with
  | ok lastCoherent adds =>
    rename_i entries
    have title : later.title = book.title := by
      have titled : state.ledger.title = some book.title := by simp [State.ledger, begun]
      have untitled : state.ledger.Untitled := by
        intro token waiting
        have ready : state.ledger.pending = none := settled
        rw [ready] at waiting
        cases waiting
      have kept := Ledger.title_of_run untitled titled recorded
      simpa [State.ledger, ended] using kept
    have chapters : later.chapters =
        (book.receive state.innermost? state.chapterAt state.sectionAt
          (.ofEntries state.innermost?.isSome entries)).chapters := by
      have grown := adds []
      simpa [State.grown, begun, ended, Growth.ofEntries, Book.receive_none] using grown
    have grows : book.Extends state.innermost? state.chapterAt state.sectionAt _ :=
      Book.extends_receive (.ofEntries state.innermost?.isSome entries)
    exact ⟨title, by rw [chapters]; exact grows.chapters,
      by unfold Book.sectionAt?; rw [chapters]; exact grows.sections,
      by unfold Book.elementAt? Book.sectionAt?; rw [chapters]; exact grows.elements⟩

/-- The current section is the last one of the last chapter. -/
theorem State.Coherent.sectionAt_eq_lastIndex? (coherent : state.Coherent)
    (begun : state.book = some book) :
    state.sectionAt =
      book.chapters.getLast?.bind fun chapter => lastIndex? chapter.sections := by
  have lastChapter := coherent.chapterAt_eq book begun
  cases current : book.chapters.getLast? with
  | none =>
    have empty : book.chapters = [] := List.getLast?_eq_none_iff.mp current
    have noChapter : state.chapterAt = none := by rw [lastChapter, empty, lastIndex?_nil]
    cases inSection : state.sectionAt with
    | none => rfl
    | some sectionAt =>
      have inChapter := coherent.chapter_of_section (by simp [inSection])
      simp [noChapter] at inChapter
  | some chapter =>
    have found : state.chapter? = some chapter := by
      rw [State.chapter?_eq, begun, lastChapter]
      exact (bind_lastIndex? book.chapters).trans current
    exact coherent.sectionAt_eq chapter found

/-- Where tokens give a book, and these tokens with more behind them give one
too, the second extends the first.  Besides the end of the last chapter and of
its last section, only the innermost branch that the first tokens leave open has
more in it. -/
theorem parse_append_extends (parsed : (parse mode tokens).result = .ok book)
    (onward : (parse mode (tokens ++ more)).result = .ok later) :
    ∃ state, run mode .initial tokens = .ok state ∧ state.book = some book ∧
      book.Extends state.innermost? (lastIndex? book.chapters)
        (book.chapters.getLast?.bind fun chapter => lastIndex? chapter.sections) later := by
  obtain ⟨state, ran, begun, settled⟩ := exists_run_of_parse parsed
  obtain ⟨last, ranOn, ended, -⟩ := exists_run_of_parse onward
  rw [run_append, ran] at ranOn
  have coherent := run_coherent initial_coherent ran
  have grows := extends_of_run coherent settled begun ranOn ended
  refine ⟨state, ran, begun, ?_⟩
  rwa [coherent.chapterAt_eq book begun, coherent.sectionAt_eq_lastIndex? begun] at grows

/-- A script that leaves a branch of its first chapter open in the second one. -/
def openedScript : List Token :=
  [.directive "book" 1, .paragraph "T" 2, .directive "chapter c" 3, .paragraph "C" 4,
    .directive "section s" 5, .paragraph "S" 6, .directive "if x" 7, .paragraph "Inside" 8,
    .directive "chapter d" 9, .paragraph "D" 10]

/-- The first chapter is not the last one, but its branch gets more in its body. -/
theorem parse_append_extends_openedScript :
    ∃ book later state, (parse .lenient openedScript).result = .ok book ∧
      (parse .lenient (openedScript ++ [.paragraph "Still inside" 11])).result = .ok later ∧
      run .lenient .initial openedScript = .ok state ∧ state.innermost? = some ⟨0, 0, 0⟩ ∧
      book.elementAt? ⟨0, 0, 0⟩ =
        some (.branch .ifBranch "x" [.leaf (.paragraph "Inside")]) ∧
      later.elementAt? ⟨0, 0, 0⟩ = some (.branch .ifBranch "x"
        [.leaf (.paragraph "Inside"), .leaf (.paragraph "Still inside")]) ∧
      book.Extends state.innermost? (some 1) none later := by
  have parsed : (parse .lenient openedScript).result = .ok ⟨"T",
      [⟨"c", "C", [⟨"s", "S", [.branch .ifBranch "x" [.leaf (.paragraph "Inside")]], []⟩]⟩,
        ⟨"d", "D", []⟩]⟩ := rfl
  have onward : (parse .lenient (openedScript ++ [.paragraph "Still inside" 11])).result =
      .ok ⟨"T", [⟨"c", "C", [⟨"s", "S", [.branch .ifBranch "x"
        [.leaf (.paragraph "Inside"), .leaf (.paragraph "Still inside")]], []⟩]⟩,
        ⟨"d", "D", []⟩]⟩ := rfl
  obtain ⟨state, ran, -, grows⟩ := parse_append_extends parsed onward
  have same : run .lenient .initial openedScript = .ok ⟨10, some ⟨"T",
      [⟨"c", "C", [⟨"s", "S", [.branch .ifBranch "x" [.leaf (.paragraph "Inside")]], []⟩]⟩,
        ⟨"d", "D", []⟩]⟩, some 1, none, some ⟨0, 0, 0⟩, none, some (.directive "if x" 7),
      none⟩ := rfl
  obtain rfl := Except.ok.inj (ran.symm.trans same)
  exact ⟨_, _, _, parsed, onward, same, rfl, rfl, rfl, grows⟩

end Gamebook.Script
