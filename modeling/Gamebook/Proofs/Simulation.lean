import Gamebook.Proofs.Coherence
import Gamebook.Proofs.Growth
import Gamebook.Proofs.Ledger

/-!
# Parsing by ledger

A state has a ledger, which is read off the book at the pointers.  In a coherent
state a step and a step of the ledger agree: they fail for the same cause, or
the next ledger is that of the next state and the entry is what the book grew by
(`step_agrees`).  So a parse fails exactly as the parse by ledger does, and a
book is the one that the entries give (`run_agrees`, `finish_agrees`).

The book is compared through growth.  Whatever entries come later, to let the
next book receive them is to let this one receive them with the new entry in
front.  In this form the steps of a run chain up from the left, as the run goes.
-/

namespace Gamebook.Script

open Gamebook.Story

/-! ## The ledger of a state -/

/-- What the checks of a parse look at, read off the state. -/
def State.ledger (state : State) : Ledger where
  position := state.position
  title := state.book.map (·.title)
  chapterId := state.chapter?.map (·.id)
  sectionId := state.section?.map (·.id)
  branch := state.openCondition?.bind fun condition =>
    state.opener.map fun opener => ⟨condition, opener, state.openElse.isSome⟩
  pending := state.pending

namespace State

variable {state next : State} {book grown : Book}

theorem chapter?_eq (state : State) :
    state.chapter? = state.book.bind fun book => state.chapterAt.bind fun chapterAt =>
      book.chapters[chapterAt]? := rfl

theorem section?_eq (state : State) :
    state.section? = state.book.bind fun book => state.chapterAt.bind fun chapterAt =>
      state.sectionAt.bind fun sectionAt => book.sectionAt? chapterAt sectionAt := by
  cases begun : state.book <;> cases chapterCurrent : state.chapterAt <;>
    simp [section?, chapter?, begun, chapterCurrent, Book.sectionAt?]
  cases state.sectionAt <;> simp

theorem ledger_branch_of_closed (closed : state.openIf = none) : state.ledger.branch = none := by
  simp [ledger, openCondition?, closed]

/-- To pass over a token is the same for a state and for its ledger. -/
theorem ledger_advance : state.advance.ledger = state.ledger.advance := rfl

namespace Coherent

variable (coherent : state.Coherent)

include coherent

/-- The ledger has a chapter exactly when there is a pointer to one, since no
pointer leads nowhere. -/
theorem ledger_chapterId_isNone : state.ledger.chapterId.isNone = state.chapterAt.isNone := by
  cases current : state.chapterAt with
  | none => simp [ledger, chapter?, current]
  | some chapterAt =>
    obtain ⟨book, chapter, begun, found⟩ := coherent.chapter_found current
    simp [ledger, chapter?, begun, current, found]

theorem ledger_sectionId_isNone : state.ledger.sectionId.isNone = state.sectionAt.isNone := by
  cases current : state.sectionAt with
  | none => simp [ledger, section?, current]
  | some sectionAt =>
    have found := coherent.section?_isSome (by simp [current])
    simpa [ledger] using found

/-- An open `if` has a condition and an opening token, and these make the branch of the ledger. -/
theorem ledger_branch_of_open {place : Place} (isOpen : state.openIf = some place) :
    ∃ condition opener, state.openCondition? = some condition ∧ state.opener = some opener ∧
      state.ledger.branch = some ⟨condition, opener, state.openElse.isSome⟩ := by
  obtain ⟨condition, known⟩ := coherent.condition_found (by simp [isOpen])
  obtain ⟨opener, opened⟩ := Option.isSome_iff_exists.mp
    (coherent.opener_iff.mpr (by simp [isOpen]))
  exact ⟨condition, opener, known, opened, by simp [ledger, known, opened]⟩

theorem ledger_branch_isSome : state.ledger.branch.isSome = state.openIf.isSome := by
  cases opened : state.openIf with
  | none => simp [ledger_branch_of_closed opened]
  | some place =>
    obtain ⟨condition, opener, -, -, branch⟩ := coherent.ledger_branch_of_open opened
    simp [branch]

theorem ledger_condition : state.ledger.branch.map (·.condition) = state.openCondition? := by
  cases opened : state.openIf with
  | none => simp [ledger_branch_of_closed opened, openCondition?, opened]
  | some place =>
    obtain ⟨condition, opener, known, -, branch⟩ := coherent.ledger_branch_of_open opened
    simp [branch, known]

/-- There is an innermost branch exactly when an `if` is open: an alternative is
never open alone. -/
theorem innermost?_isSome : state.innermost?.isSome = state.openIf.isSome := by
  cases alternative : state.openElse with
  | none => simp [innermost?, alternative]
  | some place =>
    have isOpen := coherent.if_of_else (by simp [alternative])
    simp [innermost?, alternative, isOpen]

/-- A leaf has somewhere to go exactly when the ledger has a branch or a section. -/
theorem hasContainer_eq :
    state.hasContainer = !(state.ledger.branch.isNone && state.ledger.sectionId.isNone) := by
  have branches : state.ledger.branch.isNone = !state.innermost?.isSome := by
    rw [coherent.innermost?_isSome, ← coherent.ledger_branch_isSome, Option.not_isSome]
  have sections : state.ledger.sectionId.isNone = !state.section?.isSome := by
    simp [ledger]
  simp [hasContainer, branches, sections]

theorem scope_eq : state.scope = state.ledger.scope := by
  rw [scope, Ledger.scope, coherent.ledger_condition]
  rfl

/-- An addition inside of the sections is not seen by the checks. -/
theorem ledger_grow (begun : state.book = some book) (grows : book.Grows grown) :
    ({ state with book := some grown } : State).ledger = state.ledger := by
  have condition : ({ state with book := some grown } : State).openCondition? =
      state.openCondition? :=
    coherent.openCondition?_eq begun rfl grows.branches rfl
  simp only [ledger, chapter?_eq, section?_eq, condition, begun, Option.map_some,
    Option.bind_some, grows.title, Option.map_bind, Function.comp_def, grows.chapterId,
    grows.sectionId]

end Coherent

end State

/-! ## What a step adds -/

/-- The chapters of the book so far, with a growth at the pointers. -/
def State.grown (state : State) (growth : Growth) : List Chapter :=
  ((state.book.getD ⟨"", []⟩).receive state.innermost? state.chapterAt state.sectionAt
    growth).chapters

/-- The book of the next state is that of this one with the entries: whatever
comes later grows both to the same. -/
def State.Adds (state : State) (entries : List Entry) (next : State) : Prop :=
  ∀ later, next.grown (.ofEntries next.innermost?.isSome later) =
    state.grown (.ofEntries state.innermost?.isSome (entries ++ later))

variable {state next : State}

/-- Additions chain up: this is what a run does with those of its steps. -/
theorem State.Adds.trans {middle : State} {before after : List Entry}
    (first : state.Adds before middle) (second : middle.Adds after next) :
    state.Adds (before ++ after) next := by
  intro later
  rw [second, first, List.append_assoc]

/-- With a book begun, an addition is a law of the book at the pointers. -/
theorem State.adds_of_receive {entries : List Entry} {book grown : Book}
    (begun : state.book = some book) (after : next.book = some grown)
    (law : ∀ later, grown.receive next.innermost? next.chapterAt next.sectionAt
        (.ofEntries next.innermost?.isSome later) =
      book.receive state.innermost? state.chapterAt state.sectionAt
        (.ofEntries state.innermost?.isSome (entries ++ later))) :
    state.Adds entries next := by
  intro later
  simp only [State.grown, begun, after, Option.getD_some, law]

namespace State.Coherent

theorem holds_innermost {book : Book} (coherent : state.Coherent)
    (begun : state.book = some book) : book.Holds state.innermost? := by
  intro place innermost
  obtain ⟨_, kind, condition, body, begun', found⟩ := coherent.innermost_found innermost
  obtain rfl := Option.some.inj (begun'.symm.trans begun)
  obtain ⟨here, sectionFound, -⟩ := Option.bind_eq_some_iff.mp found
  simp [sectionFound]

theorem adds_link {link : Link} (coherent : state.Coherent)
    (pushed : state.pushLink? link = some next) :
    next.ledger = state.ledger ∧ state.Adds [.link link] next := by
  obtain ⟨book, chapterAt, sectionAt, here, begun, chapterCurrent, sectionCurrent, -, rfl⟩ :=
    modifySection?_eq_some_iff.mp pushed
  constructor
  · exact coherent.ledger_grow begun ⟨rfl, Book.outline_modifySection fun _ => rfl,
      Book.keepsBranches_modifySection fun _ => ⟨[], by simp [Section.addLink]⟩⟩
  · refine adds_of_receive begun rfl ?_
    intro later
    rw [chapterCurrent, sectionCurrent]
    exact Book.receive_link link

/-- A leaf goes to the innermost branch, or else to the current section.  The
ledger does not see it. -/
theorem adds_leaf {leaf : Leaf} (coherent : state.Coherent)
    (pushed : state.pushElement? (.leaf leaf) = some next) :
    next.ledger = state.ledger ∧ state.Adds [.leaf leaf] next := by
  rcases pushElement?_eq_some_iff.mp pushed with
    ⟨place, book, kind, condition, body, innermost, begun, found, rfl⟩ | ⟨outside, changed⟩
  · have same : book.modifyElement place (fun _ => .branch kind condition (body ++ [.leaf leaf])) =
        book.modifyElement place (.extend [leaf]) :=
      Book.modifyElement_congr fun element elementFound => by
        rw [Option.some.inj (elementFound.symm.trans found)]
        rfl
    rw [same]
    constructor
    · exact coherent.ledger_grow begun ⟨rfl, Book.outline_modifySection fun _ => rfl,
        Book.keepsBranches_modifyElement fun kind condition body _ => ⟨_, rfl⟩⟩
    · refine adds_of_receive begun rfl ?_
      intro later
      show (book.modifyElement place _).receive state.innermost? state.chapterAt state.sectionAt
        (.ofEntries state.innermost?.isSome later) = _
      rw [innermost]
      exact Book.receive_leaf_of_branch leaf
  · obtain ⟨book, chapterAt, sectionAt, here, begun, chapterCurrent, sectionCurrent, -, rfl⟩ :=
      modifySection?_eq_some_iff.mp changed
    constructor
    · exact coherent.ledger_grow begun ⟨rfl, Book.outline_modifySection fun _ => rfl,
        Book.keepsBranches_modifySection fun _ => ⟨[.leaf leaf], rfl⟩⟩
    · refine adds_of_receive begun rfl ?_
      intro later
      show (book.modifySection _ _ _).receive state.innermost? state.chapterAt state.sectionAt
        (.ofEntries state.innermost?.isSome later) = _
      rw [outside, chapterCurrent, sectionCurrent]
      exact Book.receive_element (.leaf leaf)

/-- A branch of either kind goes to the current section, where it is found at
its place.  It adds its entry once it is the innermost one. -/
theorem adds_branch {chapterAt sectionAt : Nat} (coherent : state.Coherent)
    (chapterCurrent : state.chapterAt = some chapterAt)
    (sectionCurrent : state.sectionAt = some sectionAt) (kind : BranchKind) (condition : String) :
    ∃ middle place,
      state.pushBranch? chapterAt sectionAt (.branch kind condition []) = some (middle, place) ∧
      middle.ledger = state.ledger ∧
      middle.elementAt? place = some (.branch kind condition []) ∧
      middle.openElse = state.openElse ∧ middle.openCondition? = state.openCondition? ∧
      ∀ next : State, next.book = middle.book → next.chapterAt = middle.chapterAt →
        next.sectionAt = middle.sectionAt → next.innermost? = some place →
        state.Adds [.openBranch kind condition] next := by
  obtain ⟨book, here, begun, found, pushed⟩ := coherent.pushBranch?_eq chapterCurrent
    sectionCurrent (.branch kind condition [])
  obtain ⟨-, atPlace, -, sameElse, sameCondition⟩ := coherent.of_pushBranch? pushed
  refine ⟨_, _, pushed, ?_, atPlace, sameElse, sameCondition, ?_⟩
  · exact coherent.ledger_grow begun ⟨rfl, Book.outline_modifySection fun _ => rfl,
      Book.keepsBranches_modifySection fun _ => ⟨[.branch kind condition []], rfl⟩⟩
  · intro next grown sameChapter sameSection innermost
    refine adds_of_receive begun grown ?_
    intro later
    rw [innermost, sameChapter, sameSection, chapterCurrent, sectionCurrent]
    exact Book.receive_branch kind condition found

/-- An `if` adds its branch to the section and opens it, in the state and in the ledger. -/
theorem adds_beginIf {chapterAt sectionAt : Nat} (coherent : state.Coherent)
    (closed : state.openIf = none) (chapterCurrent : state.chapterAt = some chapterAt)
    (sectionCurrent : state.sectionAt = some sectionAt) (condition : String) (token : Token) :
    (state.beginIf chapterAt sectionAt condition token).ledger =
        state.ledger.beginIf condition token ∧
      state.Adds [.openBranch .ifBranch condition]
        (state.beginIf chapterAt sectionAt condition token) := by
  obtain ⟨middle, place, pushed, same, atPlace, sameElse, -, adds⟩ :=
    coherent.adds_branch chapterCurrent sectionCurrent .ifBranch condition
  have noElse : middle.openElse = none := by
    rw [sameElse, coherent.openElse_eq_none closed]
  simp only [beginIf, pushed]
  refine ⟨?_, adds _ rfl rfl rfl (by simp [innermost?, noElse])⟩
  have known : ({ middle with openIf := some place, opener := some token } : State).openCondition? =
      some condition :=
    openCondition?_eq_some_iff.mpr ⟨place, [], rfl, atPlace⟩
  calc
    _ = { middle.ledger with branch := some ⟨condition, token, false⟩ } := by
      simp only [ledger, known, Option.bind_some, Option.map_some]
      simp [noElse, chapter?, section?]
    _ = state.ledger.beginIf condition token := by rw [same, Ledger.beginIf]

/-- An `else` adds its branch beside that of the `if` and takes over what comes next. -/
theorem adds_beginElse {chapterAt sectionAt : Nat} {condition : String} (coherent : state.Coherent)
    (known : state.openCondition? = some condition)
    (chapterCurrent : state.chapterAt = some chapterAt)
    (sectionCurrent : state.sectionAt = some sectionAt) :
    (state.beginElse chapterAt sectionAt condition).ledger = state.ledger.beginElse ∧
      state.Adds [.openBranch .elseBranch condition]
        (state.beginElse chapterAt sectionAt condition) := by
  obtain ⟨middle, place, pushed, same, atPlace, -, sameCondition, adds⟩ :=
    coherent.adds_branch chapterCurrent sectionCurrent .elseBranch condition
  simp only [beginElse, pushed]
  refine ⟨?_, adds _ rfl rfl rfl (by simp [innermost?])⟩
  have later : ({ middle with openElse := some place } : State).openCondition? = some condition :=
    sameCondition.trans known
  calc
    _ = middle.ledger.beginElse := by
      simp only [ledger, later, Ledger.beginElse, sameCondition, known, Option.bind_some]
      cases middle.opener <;> rfl
    _ = state.ledger.beginElse := by rw [same]

/-- An `endif` changes no book, but what comes later stays out of the branch. -/
theorem adds_endIf (state : State) : state.endIf.ledger = state.ledger.endIf ∧
    state.Adds [.closeBranch] state.endIf := by
  constructor
  · simp [endIf, ledger, Ledger.endIf, openCondition?, chapter?, section?]
  · intro later
    exact congrArg Book.chapters Book.receive_close

/-- A titled book has nothing in it: what comes later is all there will be. -/
theorem adds_book (coherent : state.Coherent) (ready : Heading.ofBook.Ready state)
    (title : String) :
    (state.entitle .ofBook title).ledger = (state.ledger.entitle .ofBook title).1 ∧
      state.Adds [] (state.entitle .ofBook title) := by
  obtain ⟨noChapter, noSection, noIf, noElse, -⟩ := coherent.unbegun ready
  constructor
  · simp [entitle, ledger, Ledger.entitle, chapter?, section?, noChapter, openCondition?, noIf]
  · intro later
    have unbegun : state.book = none := ready
    simp [entitle, State.grown, innermost?, noChapter, noSection, noIf, noElse, unbegun,
      Book.receive, Book.receiveBody, Book.receiveParts, Book.receiveSections]

/-- A titled chapter is added and becomes current, and no section is. -/
theorem adds_chapter {id : String} (coherent : state.Coherent)
    (ready : (Heading.ofChapter id).Ready state) (title : String) :
    (state.entitle (.ofChapter id) title).ledger = (state.ledger.entitle (.ofChapter id) title).1 ∧
      state.Adds [.newChapter id title] (state.entitle (.ofChapter id) title) := by
  obtain ⟨book, begun⟩ := Option.isSome_iff_exists.mp ready
  have titled := entitle_ofChapter id title begun
  have condition : (state.entitle (.ofChapter id) title).openCondition? = state.openCondition? :=
    coherent.openCondition?_eq begun (by rw [titled])
      (Book.keepsBranches_addChapter ⟨id, title, []⟩) (by rw [titled])
  constructor
  · simp only [ledger, condition]
    simp [titled, Ledger.entitle, chapter?, section?, Book.addChapter, begun]
  · rw [titled]
    refine adds_of_receive begun rfl ?_
    intro later
    exact Book.receive_chapter state.chapterAt state.sectionAt id title
      (coherent.holds_innermost begun)

/-- A titled section is added to the current chapter and becomes current. -/
theorem adds_section {id : String} (coherent : state.Coherent)
    (ready : (Heading.ofSection id).Ready state) (title : String) :
    (state.entitle (.ofSection id) title).ledger = (state.ledger.entitle (.ofSection id) title).1 ∧
      state.Adds [.newSection id title] (state.entitle (.ofSection id) title) := by
  obtain ⟨chapterAt, current⟩ := Option.isSome_iff_exists.mp ready
  obtain ⟨book, chapter, begun, found⟩ := coherent.chapter_found current
  have titled := entitle_ofSection id title begun current found
  have condition : (state.entitle (.ofSection id) title).openCondition? = state.openCondition? :=
    coherent.openCondition?_eq begun (by rw [titled])
      (Book.keepsBranches_addSection chapterAt ⟨id, title, [], []⟩) (by rw [titled])
  constructor
  · simp only [ledger, condition]
    simp [titled, Ledger.entitle, chapter?, section?, begun, current, found, Chapter.addSection,
      Book.modifyChapter]
  · rw [titled]
    refine adds_of_receive begun rfl ?_
    intro later
    rw [current]
    exact Book.receive_section state.sectionAt id title (coherent.holds_innermost begun) found

/-- A title ends the wait for it, whatever the heading, and adds what the ledger records. -/
theorem adds_entitle {heading : Heading} (coherent : state.Coherent)
    (ready : heading.Ready state) (title : String) :
    (state.entitle heading title).ledger = (state.ledger.entitle heading title).1 ∧
      state.Adds (state.ledger.entitle heading title).2.toList (state.entitle heading title) := by
  cases heading with
  | ofBook => exact coherent.adds_book ready title
  | ofChapter id => exact coherent.adds_chapter ready title
  | ofSection id => exact coherent.adds_section ready title

end State.Coherent

/-! ## Agreement of steps -/

/-- A step of the state and a step of its ledger fail alike, or the next ledger is
that of the next state and the entry is what was added. -/
inductive Agrees (state : State) : Except Cause State → Except Cause (Ledger × Option Entry) → Prop
  where
  /-- Both fail. -/
  | error (cause : Cause) : Agrees state (.error cause) (.error cause)
  /-- Both go on. -/
  | ok {next : State} {ledger : Ledger} {entry : Option Entry} (same : next.ledger = ledger)
      (adds : state.Adds entry.toList next) : Agrees state (.ok next) (.ok (ledger, entry))

/-- The same check on both sides is agreed on. -/
theorem Agrees.bind {α : Type} {check : Except Cause α} {others : α → Except Cause State}
    {ledgers : α → Except Cause (Ledger × Option Entry)}
    (agree : ∀ a, check = .ok a → Agrees state (others a) (ledgers a)) :
    Agrees state (check >>= others) (check >>= ledgers) := by
  cases check with
  | error cause => exact .error cause
  | ok a => exact agree a rfl

/-- What is agreed on is agreed on once the token is passed over. -/
theorem Agrees.advance {next : State} {ledger : Ledger} {entry : Option Entry}
    (same : next.ledger = ledger) (adds : state.Adds entry.toList next) :
    Agrees state (.ok next.advance) (.ok (ledger.advance, entry)) := by
  refine .ok ?_ adds
  rw [State.ledger_advance, same]

theorem State.adds_nothing (position : Nat) (pending : Option Pending) :
    state.Adds [] { state with position := position, pending := pending } := fun _ => rfl

section Steps

variable {mode : Mode} {token : Token} (coherent : state.Coherent)

include coherent

/-- At a heading both are asked alike for an open branch. -/
theorem checkClosed_eq (heading : Keyword) :
    state.checkClosed mode heading = state.ledger.checkClosed mode heading := by
  have condition := coherent.ledger_condition
  cases opened : state.ledger.branch <;> cases mode <;>
    simp [State.checkClosed, Ledger.checkClosed, opened, ← condition]

/-- What is demanded of the book and what is asked of the pointers come to the
same where something is added to the current section. -/
theorem agrees_pushLink {link : Link} {cause : Cause} (current : state.sectionAt.isSome) :
    Agrees state (do return (← demand (state.pushLink? link) cause).advance)
      (.ok (state.ledger.advance, some (.link link))) := by
  obtain ⟨next, pushed⟩ := coherent.exists_modifySection? current (·.addLink link)
  obtain ⟨same, adds⟩ := coherent.adds_link pushed
  have found : state.pushLink? link = some next := pushed
  simp only [found, demand]
  exact .advance same adds

/-- The same where a leaf is added to the container that is there. -/
theorem agrees_pushElement {leaf : Leaf} {cause : Cause} (container : state.hasContainer = true) :
    Agrees state (do return (← demand (state.pushElement? (.leaf leaf)) cause).advance)
      (.ok (state.ledger.advance, some (.leaf leaf))) := by
  obtain ⟨next, pushed⟩ := coherent.exists_pushElement? container (.leaf leaf)
  obtain ⟨same, adds⟩ := coherent.adds_leaf pushed
  simp only [pushed, demand]
  exact .advance same adds

theorem pushElement?_eq_none {element : Element} (outside : state.hasContainer = false) :
    state.pushElement? element = none := by
  obtain ⟨noBranch, noSection⟩ := Bool.or_eq_false_iff.mp outside
  have innermost : state.innermost? = none := by simpa using noBranch
  cases current : state.sectionAt with
  | none => simp [State.pushElement?, innermost, State.modifySection?, current]
  | some sectionAt =>
    simpa [noSection] using coherent.section?_isSome (by simp [current])

/-- The pointers to chapter and section are demanded in turn, but the section is
never there without its chapter. -/
theorem agrees_demandSection {cause : Cause} {others : Nat → Nat → Except Cause State}
    {ledgers : Except Cause (Ledger × Option Entry)}
    (agree : ∀ chapterAt sectionAt, state.chapterAt = some chapterAt →
      state.sectionAt = some sectionAt → Agrees state (others chapterAt sectionAt) ledgers) :
    Agrees state
      (do
        let chapterAt ← demand state.chapterAt cause
        let sectionAt ← demand state.sectionAt cause
        others chapterAt sectionAt)
      (do
        forbid state.sectionAt.isNone cause
        ledgers) := by
  cases sectionCurrent : state.sectionAt with
  | none => cases state.chapterAt <;> exact .error _
  | some sectionAt =>
    obtain ⟨chapterAt, chapterCurrent⟩ := Option.isSome_iff_exists.mp
      (coherent.chapter_of_section (by simp [sectionCurrent]))
    rw [chapterCurrent]
    exact agree chapterAt sectionAt chapterCurrent sectionCurrent

/-- A link to a section of the current chapter: the section is looked for after the field, where
the link is added. -/
theorem agrees_next :
    Agrees state (directiveStep mode state token token.reading .next)
      (Ledger.directiveStep mode state.ledger token token.reading .next) := by
  cases found : state.chapter? with
  | none =>
    have unknown : state.ledger.chapterId = none := by simp [State.ledger, found]
    simp only [directiveStep, Ledger.directiveStep, found, unknown]
    exact .error _
  | some chapter =>
    have known : state.ledger.chapterId = some chapter.id := by simp [State.ledger, found]
    simp only [directiveStep, Ledger.directiveStep, coherent.ledger_sectionId_isNone, found, known]
    -- The chapter is there, so that both demands for it are gone.
    show Agrees state (do
      let target ← token.reading.demandField 0 "a target section id"
      let next ← demand (state.pushLink? ⟨token.reading.rest 1, chapter.id, target⟩)
        (.misplaced .next .openSection)
      return next.advance) _
    refine .bind ?_
    intro target _
    cases current : state.sectionAt with
    | none =>
      have missing : state.pushLink? ⟨token.reading.rest 1, chapter.id, target⟩ = none := by
        simp [State.pushLink?, State.modifySection?, current]
      simp only [missing]
      exact .error _
    | some sectionAt => exact agrees_pushLink coherent (by simp [current])

/-- An alternative: the condition that the state looks up in the book is the one in the ledger. -/
theorem agrees_openElse :
    Agrees state (directiveStep mode state token token.reading .openElse)
      (Ledger.directiveStep mode state.ledger token token.reading .openElse) := by
  cases isOpen : state.openIf with
  | none =>
    have closed := State.ledger_branch_of_closed isOpen
    simp only [directiveStep, Ledger.directiveStep, closed, isOpen]
    exact .error _
  | some place =>
    obtain ⟨condition, opener, known, -, branch⟩ := coherent.ledger_branch_of_open isOpen
    simp only [directiveStep, Ledger.directiveStep, branch, known, isOpen,
      coherent.ledger_sectionId_isNone, Option.getD_some]
    show Agrees state (do
      forbid (mode = .strict && state.openElse.isSome) (.secondElse condition)
      let chapterAt ← demand state.chapterAt (.misplaced .openElse .openSection)
      let sectionAt ← demand state.sectionAt (.misplaced .openElse .openSection)
      return (state.beginElse chapterAt sectionAt condition).advance) _
    refine .bind ?_
    intro _ _
    refine agrees_demandSection coherent ?_
    intro chapterAt sectionAt chapterCurrent sectionCurrent
    obtain ⟨same, adds⟩ := coherent.adds_beginElse known chapterCurrent sectionCurrent
    exact .advance same adds

/-- A known directive is checked and carried out alike.  There is one case for
each keyword, and in each the checks are peeled off from the left until what is
added is all that is left. -/
theorem directiveStep_agrees (keyword : Keyword) :
    Agrees state (directiveStep mode state token token.reading keyword)
      (Ledger.directiveStep mode state.ledger token token.reading keyword) := by
  -- What the checks ask of the pointers they ask of the ledger.
  have begun : state.ledger.title.isSome = state.book.isSome := Option.isSome_map
  have chapters := coherent.ledger_chapterId_isNone
  have sections := coherent.ledger_sectionId_isNone
  have branches := coherent.ledger_branch_isSome
  cases keyword with
  | openBook =>
    simp only [directiveStep, Ledger.directiveStep, begun]
    exact .bind fun _ _ => .ok rfl (State.adds_nothing _ _)
  | openChapter =>
    simp only [directiveStep, Ledger.directiveStep, checkClosed_eq coherent]
    exact .bind fun _ _ => .bind fun _ _ => .ok rfl (State.adds_nothing _ _)
  | openSection =>
    simp only [directiveStep, Ledger.directiveStep, checkClosed_eq coherent, chapters]
    exact .bind fun _ _ => .bind fun _ _ => .bind fun _ _ => .ok rfl (State.adds_nothing _ _)
  | next => exact agrees_next coherent
  | jump =>
    simp only [directiveStep, Ledger.directiveStep, sections]
    refine .bind fun _ current => .bind fun chapterId _ => .bind fun target _ => ?_
    exact agrees_pushLink coherent (by simpa using current)
  | state =>
    simp only [directiveStep, Ledger.directiveStep]
    rw [coherent.hasContainer_eq, Bool.not_not]
    refine .bind fun _ inside => .bind fun id _ => .bind fun modifier _ => ?_
    exact agrees_pushElement coherent (by
      rw [coherent.hasContainer_eq, forbid_eq_ok_iff.mp inside]
      rfl)
  | item =>
    simp only [directiveStep, Ledger.directiveStep, sections]
    refine .bind fun _ current => .bind fun leaf _ => ?_
    exact agrees_pushElement coherent (by
      simp [State.hasContainer, coherent.section?_isSome (by simpa using current)])
  | openIf =>
    simp only [directiveStep, Ledger.directiveStep, branches, sections]
    refine .bind ?_
    intro _ closed
    refine agrees_demandSection coherent ?_
    intro chapterAt sectionAt chapterCurrent sectionCurrent
    refine .bind ?_
    intro _ _
    obtain ⟨same, adds⟩ := coherent.adds_beginIf (by simpa using closed) chapterCurrent
      sectionCurrent (token.reading.rest 0) token
    exact .advance same adds
  | openElse => exact agrees_openElse coherent
  | closeIf =>
    simp only [directiveStep, Ledger.directiveStep]
    rw [← Option.not_isSome, ← Option.not_isSome, branches]
    obtain ⟨same, adds⟩ := State.Coherent.adds_endIf state
    exact .bind fun _ _ => .advance same adds

/-- A directive is asked for a book first, unless its word is unknown, and then carried out. -/
theorem commandStep_agrees (isDirective : token.kind = .directive) :
    Agrees state (do state.checkBookFirst token; commandStep mode state token)
      (Ledger.commandStep mode state.ledger token) := by
  cases known : token.reading.keyword? with
  | none =>
    have passed : state.checkBookFirst token = .ok () := by
      cases begun : state.book <;> simp [State.checkBookFirst, begun, isDirective, known]
    simp only [passed, commandStep, Ledger.commandStep, known]
    exact .error _
  | some keyword =>
    have first : state.checkBookFirst token =
        forbid (state.ledger.title.isNone && keyword ≠ .openBook)
          (.beforeBook (quoted keyword.spelling)) := by
      cases begun : state.book with
      | some book => simp [State.checkBookFirst, State.ledger, begun, forbid]
      | none =>
        cases keyword <;>
          simp [State.checkBookFirst, State.ledger, begun, isDirective, known, forbid]
    simp only [first, commandStep, Ledger.commandStep, known]
    exact .bind fun _ _ => directiveStep_agrees coherent keyword

/-- A paragraph that is no title is asked for a book and for a container. -/
theorem paragraphStep_agrees (isParagraph : token.kind = .paragraph) :
    Agrees state (do state.checkBookFirst token; paragraphStep state token.text)
      (Ledger.paragraphStep state.ledger token.text) := by
  have first : state.checkBookFirst token =
      forbid state.ledger.title.isNone (.beforeBook "text") := by
    cases begun : state.book <;>
      simp [State.checkBookFirst, State.ledger, begun, isParagraph, forbid]
  simp only [first, paragraphStep, Ledger.paragraphStep]
  refine .bind ?_
  intro _ _
  have container := coherent.hasContainer_eq
  cases outside : state.ledger.branch.isNone && state.ledger.sectionId.isNone with
  | false => exact agrees_pushElement coherent (by simp [container, outside])
  | true =>
    rw [outside] at container
    simp only [pushElement?_eq_none coherent (by simpa using container)]
    exact .error _

/-- One step of a coherent state and one of its ledger agree. -/
theorem step_agrees :
    Agrees state (step mode state token) (Ledger.step mode state.ledger token) := by
  cases waiting : state.pending with
  | some pending =>
    have same : state.ledger.pending = some pending := waiting
    simp only [step, Ledger.step, waiting, same]
    cases token.kind with
    | directive => exact .error _
    | paragraph =>
      obtain ⟨same, adds⟩ := coherent.adds_entitle (coherent.pending_ready _ waiting) token.text
      exact .ok same adds
  | none =>
    have same : state.ledger.pending = none := waiting
    simp only [step, Ledger.step, waiting, same]
    cases kind : token.kind with
    | directive => exact commandStep_agrees coherent kind
    | paragraph => exact paragraphStep_agrees coherent kind

end Steps

/-! ## Agreement of runs -/

/-- A run of the state and a run of its ledger fail alike, or the last ledger is
that of the last state and the entries are what was added. -/
inductive RunsAgree (state : State) :
    Except Failure State → Except Failure (Ledger × List Entry) → Prop
  where
  /-- Both fail. -/
  | error (failure : Failure) : RunsAgree state (.error failure) (.error failure)
  /-- Both come to the end. -/
  | ok {last : State} {entries : List Entry} (coherent : last.Coherent)
      (adds : state.Adds entries last) : RunsAgree state (.ok last) (.ok (last.ledger, entries))

/-- Whole runs agree, by induction on the tokens: coherence is kept by each
step, and the additions of the steps chain up. -/
theorem run_agrees {mode : Mode} (coherent : state.Coherent) (tokens : List Token) :
    RunsAgree state (run mode state tokens) (Ledger.run mode state.ledger tokens) := by
  induction tokens generalizing state with
  | nil => exact .ok coherent (fun _ => rfl)
  | cons token rest ih =>
    have agrees : Agrees state (step mode state token) _ := step_agrees coherent
    simp only [run, Ledger.run]
    -- The two outcomes are generalized together, so that the cases of their agreement are those
    -- of the run.
    generalize stepped : step mode state token = outcome at agrees
    generalize Ledger.step mode state.ledger token = recorded at agrees
    cases agrees with
    | error cause =>
      have same : state.failure cause token = state.ledger.failure cause token := by
        simp only [State.failure, Ledger.failure, coherent.scope_eq]
        rfl
      simp only [same]
      exact .error _
    | ok same adds =>
      rename_i next ledger entry
      subst same
      have rest_agrees := ih (step_coherent coherent stepped)
      simp only
      generalize run mode next rest = outcome at rest_agrees
      generalize Ledger.run mode next.ledger rest = recorded at rest_agrees
      cases rest_agrees with
      | error failure => exact .error failure
      | ok lastCoherent later => exact .ok lastCoherent (adds.trans later)

/-- From the start on, what was added is the book. -/
theorem chapters_of_adds {last : State} {entries : List Entry} {book : Book}
    (adds : State.initial.Adds entries last) (begun : last.book = some book) :
    book = bookOfEntries book.title entries := by
  have chapters := adds []
  simp only [State.grown, begun, Option.getD_some, List.append_nil, Growth.ofEntries,
    Book.receive_none] at chapters
  calc
    book = ⟨book.title, book.chapters⟩ := rfl
    _ = bookOfEntries book.title entries := by rw [chapters]; rfl

/-- The ends agree where no title is waited for and no `if` is complained of. -/
theorem finish_agrees_of_settled {mode : Mode} {last : State} {entries : List Entry}
    (adds : State.initial.Adds entries last) (settled : last.pending = none)
    (ends : mode = .lenient ∨ last.openIf = none) :
    finish mode last = last.ledger.finish mode entries := by
  have waiting : last.ledger.pending = none := settled
  cases begun : last.book with
  | none =>
    have untitled : last.ledger.title = none := by simp [State.ledger, begun]
    have reached : last.ledger.position = last.position := rfl
    rcases ends with rfl | isOpen
    · simp [finish, Ledger.finish, settled, waiting, begun, untitled, reached]
    · have closed := State.ledger_branch_of_closed isOpen
      simp [finish, Ledger.finish, settled, waiting, isOpen, closed, begun, untitled, reached]
  | some book =>
    have titled : last.ledger.title = some book.title := by simp [State.ledger, begun]
    have made := chapters_of_adds adds begun
    rcases ends with rfl | isOpen
    · simp [finish, Ledger.finish, settled, waiting, begun, titled, ← made]
    · have closed := State.ledger_branch_of_closed isOpen
      simp [finish, Ledger.finish, settled, waiting, isOpen, closed, begun, titled, ← made]

/-- The ends agree: a missing title and, in strict mode, an open `if` are complained of alike. -/
theorem finish_agrees {mode : Mode} {last : State} {entries : List Entry}
    (coherent : last.Coherent) (adds : State.initial.Adds entries last) :
    finish mode last = last.ledger.finish mode entries := by
  have waiting : last.ledger.pending = last.pending := rfl
  cases pending : last.pending with
  | some pending =>
    simp only [finish, Ledger.finish, waiting, pending, State.failure, Ledger.failure,
      coherent.scope_eq]
    rfl
  | none =>
    cases isOpen : last.openIf with
    | none => exact finish_agrees_of_settled adds pending (.inr isOpen)
    | some place =>
      cases mode with
      | lenient => exact finish_agrees_of_settled adds pending (.inl rfl)
      | strict =>
        obtain ⟨condition, opener, known, opened, branch⟩ :=
          coherent.ledger_branch_of_open isOpen
        simp [finish, Ledger.finish, waiting, pending, isOpen, known, opened, branch,
          Ledger.failure, coherent.scope_eq]
        rfl

/-- Parsing and parsing by ledger have the same outcome. -/
theorem parse_eq_ledger_parse (mode : Mode) (tokens : List Token) :
    parse mode tokens = Ledger.parse mode tokens := by
  have agrees : RunsAgree .initial (run mode .initial tokens)
      (Ledger.run mode .initial tokens) := run_agrees initial_coherent tokens
  simp only [parse, Ledger.parse]
  split
  · rfl
  · generalize run mode .initial tokens = outcome at agrees
    generalize Ledger.run mode .initial tokens = recorded at agrees
    cases agrees with
    | error failure => rfl
    | ok coherent adds =>
      simp only [finish_agrees coherent adds]
      rfl

end Gamebook.Script
