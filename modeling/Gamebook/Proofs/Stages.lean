import Gamebook.Proofs.Moves

/-!
# Stages of a strict parse

In strict mode a branch lies within one section.  So there are few ways in which
a ledger can stand once the book has begun: a *stage* says whether a title is
due, and what of chapter, section and branch is current.

`Continues stage tokens growth` says that the tokens can follow at a stage up to
the end, and what they add to the book.  It has a case for each token that can
come next and one for the end.  What can follow at a stage is accepted there
(`Continues.yields`).  Conversely, every move leads from a stage to a stage
(`Ledger.Moves.follows`), so nothing else is accepted (`continues_of_run`).
-/

namespace Gamebook.Script

open Gamebook.Story

/-- How a strict parse stands after the title of the book. -/
inductive Stage where
  /-- No chapter has begun. -/
  | book
  /-- The title of a chapter is due. -/
  | chapterTitle (id : String)
  /-- No section of the chapter has begun. -/
  | chapter (chapterId : String)
  /-- The title of a section is due. -/
  | sectionTitle (chapterId id : String)
  /-- No branch is open in the section. -/
  | inSection (chapterId : String)
  /-- A branch is open in the section. -/
  | inBranch (chapterId condition : String) (hasElse : Bool)

namespace Stage

/-- Between two items, sections or chapters, where the script may end. -/
def isBetween : Stage → Bool
  | .book | .chapter _ | .inSection _ => true
  | _ => false

/-- The chapter that a section would belong to. -/
def chapterId? : Stage → Option String
  | .chapter chapterId | .inSection chapterId => some chapterId
  | _ => none

variable {stage : Stage}

theorem isBetween_iff : stage.isBetween = true ↔
    stage = .book ∨ (∃ chapterId, stage = .chapter chapterId) ∨
      ∃ chapterId, stage = .inSection chapterId := by
  cases stage <;> simp [isBetween]

theorem chapterId?_eq_some_iff {chapterId : String} : stage.chapterId? = some chapterId ↔
    stage = .chapter chapterId ∨ stage = .inSection chapterId := by
  cases stage <;> simp [chapterId?]

end Stage

/-- The ledger stands at the stage. -/
def Ledger.At (ledger : Ledger) : Stage → Prop
  | .book => ledger.pending = none ∧ ledger.chapterId = none ∧ ledger.sectionId = none ∧
      ledger.branch = none
  | .chapterTitle id => (∃ token, ledger.pending = some ⟨.ofChapter id, token⟩) ∧
      ledger.branch = none
  | .chapter chapterId => ledger.pending = none ∧ ledger.chapterId = some chapterId ∧
      ledger.sectionId = none ∧ ledger.branch = none
  | .sectionTitle chapterId id => (∃ token, ledger.pending = some ⟨.ofSection id, token⟩) ∧
      ledger.chapterId = some chapterId ∧ ledger.branch = none
  | .inSection chapterId => ledger.pending = none ∧ ledger.chapterId = some chapterId ∧
      ledger.sectionId.isSome ∧ ledger.branch = none
  | .inBranch chapterId condition hasElse => ledger.pending = none ∧
      ledger.chapterId = some chapterId ∧ ledger.sectionId.isSome ∧
      ∃ opener, ledger.branch = some ⟨condition, opener, hasElse⟩

/-- The tokens can follow at the stage up to the end, and they add the growth. -/
inductive Continues : Stage → List Token → Growth → Prop where
  /-- The end. -/
  | done {stage : Stage} (between : stage.isBetween = true) : Continues stage [] .none
  /-- A chapter begins. -/
  | openChapter {stage : Stage} {token : Token} {id : String} {surplus : List String}
      {rest : List Token} {growth : Growth} (between : stage.isBetween = true)
      (reads : token.Reads .openChapter (id :: surplus))
      (later : Continues (.chapterTitle id) rest growth) : Continues stage (token :: rest) growth
  /-- A chapter gets its title. -/
  | chapterTitle {token : Token} {id : String} {rest : List Token} {growth : Growth}
      (isParagraph : token.kind = .paragraph) (later : Continues (.chapter id) rest growth) :
      Continues (.chapterTitle id) (token :: rest)
        { growth with
          elements := []
          links := []
          sections := []
          chapters := ⟨id, token.text, growth.sections⟩ :: growth.chapters }
  /-- A section begins. -/
  | openSection {stage : Stage} {token : Token} {chapterId id : String} {surplus : List String}
      {rest : List Token} {growth : Growth} (within : stage.chapterId? = some chapterId)
      (reads : token.Reads .openSection (id :: surplus))
      (later : Continues (.sectionTitle chapterId id) rest growth) :
      Continues stage (token :: rest) growth
  /-- A section gets its title. -/
  | sectionTitle {token : Token} {chapterId id : String} {rest : List Token} {growth : Growth}
      (isParagraph : token.kind = .paragraph)
      (later : Continues (.inSection chapterId) rest growth) :
      Continues (.sectionTitle chapterId id) (token :: rest)
        { growth with
          elements := []
          links := []
          sections := ⟨id, token.text, growth.elements, growth.links⟩ :: growth.sections }
  /-- A leaf of the section. -/
  | leaf {token : Token} {chapterId : String} {leaf : Leaf} {rest : List Token} {growth : Growth}
      (derives : DerivesLeaf token leaf) (later : Continues (.inSection chapterId) rest growth) :
      Continues (.inSection chapterId) (token :: rest)
        { growth with elements := .leaf leaf :: growth.elements }
  /-- A link outside of branches. -/
  | link {token : Token} {chapterId : String} {link : Link} {rest : List Token} {growth : Growth}
      (derives : DerivesLink chapterId token link)
      (later : Continues (.inSection chapterId) rest growth) :
      Continues (.inSection chapterId) (token :: rest)
        { growth with links := link :: growth.links }
  /-- A branch begins. -/
  | openIf {token : Token} {chapterId word : String} {more : List String} {rest : List Token}
      {growth : Growth} (reads : token.Reads .openIf (word :: more))
      (later : Continues (.inBranch chapterId (" ".intercalate (word :: more)) false) rest growth) :
      Continues (.inSection chapterId) (token :: rest)
        { growth with
          body := []
          elements := .branch .ifBranch (" ".intercalate (word :: more)) (growth.body.map .leaf) ::
            growth.elements }
  /-- A leaf of the branch. -/
  | innerLeaf {token : Token} {chapterId condition : String} {hasElse : Bool} {leaf : Leaf}
      {rest : List Token} {growth : Growth} (derives : DerivesLeaf token leaf)
      (later : Continues (.inBranch chapterId condition hasElse) rest growth) :
      Continues (.inBranch chapterId condition hasElse) (token :: rest)
        { growth with body := leaf :: growth.body }
  /-- A link inside of a branch. -/
  | innerLink {token : Token} {chapterId condition : String} {hasElse : Bool} {link : Link}
      {rest : List Token} {growth : Growth} (derives : DerivesLink chapterId token link)
      (later : Continues (.inBranch chapterId condition hasElse) rest growth) :
      Continues (.inBranch chapterId condition hasElse) (token :: rest)
        { growth with links := link :: growth.links }
  /-- The alternative of the branch begins. -/
  | openElse {token : Token} {chapterId condition : String} {surplus : List String}
      {rest : List Token} {growth : Growth} (reads : token.Reads .openElse surplus)
      (later : Continues (.inBranch chapterId condition true) rest growth) :
      Continues (.inBranch chapterId condition false) (token :: rest)
        { growth with
          body := []
          elements := .branch .elseBranch condition (growth.body.map .leaf) :: growth.elements }
  /-- The branch ends. -/
  | closeIf {token : Token} {chapterId condition : String} {hasElse : Bool}
      {surplus : List String} {rest : List Token} {growth : Growth}
      (reads : token.Reads .closeIf surplus)
      (later : Continues (.inSection chapterId) rest growth) :
      Continues (.inBranch chapterId condition hasElse) (token :: rest) { growth with body := [] }

/-! ## Runs from a stage -/

/-- A strict run by ledger comes to an end where the script may end, and its
entries grow the book so. -/
def Ledger.Yields (ledger : Ledger) (tokens : List Token) (growth : Growth) : Prop :=
  ∃ last entries, run .strict ledger tokens = .ok (last, entries) ∧ last.title = ledger.title ∧
    last.pending = none ∧ last.branch = none ∧ .ofEntries ledger.branch.isSome entries = growth

namespace Ledger

variable {ledger next : Ledger} {stage : Stage} {token : Token} {rest : List Token}
  {growth : Growth} {entry : Option Entry}

theorem Moves.yields (moves : Moves .strict ledger token next entry)
    (same : next.title = ledger.title)
    (later : next.Yields rest growth) {grown : Growth}
    (grows : ∀ entries, .ofEntries next.branch.isSome entries = growth →
      .ofEntries ledger.branch.isSome (entry.toList ++ entries) = grown) :
    ledger.Yields (token :: rest) grown := by
  obtain ⟨last, entries, ran, titled, ended, closed, rfl⟩ := later
  exact ⟨last, _, run_cons_eq_ok_iff.mpr ⟨next, entry, entries, moves, ran, rfl⟩,
    titled.trans same, ended, closed, grows entries rfl⟩

/-- Where the script may end, no title is due and no branch is open. -/
theorem At.of_between (at_stage : ledger.At stage) (between : stage.isBetween = true) :
    ledger.pending = none ∧ ledger.branch = none := by
  rcases Stage.isBetween_iff.mp between with rfl | ⟨chapterId, rfl⟩ | ⟨chapterId, rfl⟩
  · exact ⟨at_stage.1, at_stage.2.2.2⟩
  · exact ⟨at_stage.1, at_stage.2.2.2⟩
  · exact ⟨at_stage.1, at_stage.2.2.2⟩

theorem At.of_chapterId? {chapterId : String} (at_stage : ledger.At stage)
    (within : stage.chapterId? = some chapterId) :
    ledger.pending = none ∧ ledger.chapterId = some chapterId ∧ ledger.branch = none := by
  rcases Stage.chapterId?_eq_some_iff.mp within with rfl | rfl
  · exact ⟨at_stage.1, at_stage.2.1, at_stage.2.2.2⟩
  · exact ⟨at_stage.1, at_stage.2.1, at_stage.2.2.2⟩

/-- A leaf of a section or branch is accepted there. -/
theorem moves_of_derivesLeaf {leaf : Leaf} (derives : DerivesLeaf token leaf)
    (ready : ledger.pending = none) (begun : ledger.title.isSome)
    (current : ledger.sectionId.isSome) :
    Moves .strict ledger token ledger.advance (some (.leaf leaf)) := by
  cases derives with
  | paragraph isParagraph => exact .paragraph isParagraph ready begun (.inr current)
  | state reads => exact .state ⟨reads, ready, begun⟩ (.inr current)
  | addItem reads kept => exact .addItem ⟨reads, ready, begun⟩ kept current
  | removeItem reads removed => exact .removeItem ⟨reads, ready, begun⟩ removed current

theorem moves_of_derivesLink {chapterId : String} {link : Link}
    (derives : DerivesLink chapterId token link) (ready : ledger.pending = none)
    (begun : ledger.title.isSome) (inChapter : ledger.chapterId = some chapterId)
    (current : ledger.sectionId.isSome) :
    Moves .strict ledger token ledger.advance (some (.link link)) := by
  cases derives with
  | next reads => exact .next ⟨reads, ready, begun⟩ inChapter current
  | jump reads => exact .jump ⟨reads, ready, begun⟩ current

end Ledger

/-- What can follow at a stage is accepted there, and adds the growth. -/
theorem Continues.yields {stage : Stage} {tokens : List Token} {growth : Growth}
    {ledger : Ledger} (continues : Continues stage tokens growth) (begun : ledger.title.isSome)
    (at_stage : ledger.At stage) : ledger.Yields tokens growth := by
  induction continues generalizing ledger with
  | done between =>
    obtain ⟨ready, closed⟩ := at_stage.of_between between
    exact ⟨ledger, [], rfl, rfl, ready, closed, rfl⟩
  | openChapter between reads later ih =>
    obtain ⟨ready, closed⟩ := at_stage.of_between between
    have moves : Ledger.Moves .strict ledger _ _ _ :=
      .openChapter ⟨reads, ready, begun⟩ (fun _ => closed)
    exact moves.yields rfl (ih begun ⟨⟨_, rfl⟩, closed⟩) fun entries grown => grown
  | chapterTitle isParagraph later ih =>
    obtain ⟨⟨opening, waiting⟩, closed⟩ := at_stage
    have moves : Ledger.Moves .strict ledger _ _ _ := .title waiting isParagraph
    refine moves.yields rfl (ih begun ⟨rfl, rfl, rfl, closed⟩) ?_
    intro entries grown
    rw [← grown]
    rfl
  | openSection within reads later ih =>
    obtain ⟨ready, inChapter, closed⟩ := at_stage.of_chapterId? within
    have moves : Ledger.Moves .strict ledger _ _ _ :=
      .openSection ⟨reads, ready, begun⟩ (by simp [inChapter]) (fun _ => closed)
    exact moves.yields rfl (ih begun ⟨⟨_, rfl⟩, inChapter, closed⟩) fun entries grown => grown
  | sectionTitle isParagraph later ih =>
    obtain ⟨⟨opening, waiting⟩, inChapter, closed⟩ := at_stage
    have moves : Ledger.Moves .strict ledger _ _ _ := .title waiting isParagraph
    refine moves.yields rfl (ih begun ⟨rfl, inChapter, rfl, closed⟩) ?_
    intro entries grown
    rw [← grown]
    rfl
  | leaf derives later ih =>
    obtain ⟨ready, inChapter, current, closed⟩ := at_stage
    have moves := Ledger.moves_of_derivesLeaf derives ready begun current
    refine moves.yields rfl (ih begun ⟨ready, inChapter, current, closed⟩) ?_
    intro entries grown
    rw [← grown]
    simp [Growth.ofEntries, Ledger.advance, closed]
  | link derives later ih =>
    obtain ⟨ready, inChapter, current, closed⟩ := at_stage
    have moves := Ledger.moves_of_derivesLink derives ready begun inChapter current
    refine moves.yields rfl (ih begun ⟨ready, inChapter, current, closed⟩) ?_
    intro entries grown
    rw [← grown]
    rfl
  | openIf reads later ih =>
    obtain ⟨ready, inChapter, current, closed⟩ := at_stage
    have moves : Ledger.Moves .strict ledger _ _ _ :=
      .openIf ⟨reads, ready, begun⟩ closed current
    refine moves.yields rfl (ih begun ⟨ready, inChapter, current, _, rfl⟩) ?_
    intro entries grown
    rw [← grown]
    rfl
  | innerLeaf derives later ih =>
    obtain ⟨ready, inChapter, current, opener, isOpen⟩ := at_stage
    have moves := Ledger.moves_of_derivesLeaf derives ready begun current
    refine moves.yields rfl (ih begun ⟨ready, inChapter, current, opener, isOpen⟩) ?_
    intro entries grown
    rw [← grown]
    simp [Growth.ofEntries, Ledger.advance, isOpen]
  | innerLink derives later ih =>
    obtain ⟨ready, inChapter, current, opener, isOpen⟩ := at_stage
    have moves := Ledger.moves_of_derivesLink derives ready begun inChapter current
    refine moves.yields rfl (ih begun ⟨ready, inChapter, current, opener, isOpen⟩) ?_
    intro entries grown
    rw [← grown]
    rfl
  | @openElse _ _ condition _ _ _ reads later ih =>
    obtain ⟨ready, inChapter, current, opener, isOpen⟩ := at_stage
    have moves : Ledger.Moves .strict ledger _ _ _ :=
      .openElse ⟨reads, ready, begun⟩ isOpen (fun _ => rfl) current
    have opened : ledger.beginElse.advance.branch = some ⟨condition, opener, true⟩ := by
      simp [Ledger.beginElse, Ledger.advance, isOpen]
    refine moves.yields rfl (ih begun ⟨ready, inChapter, current, opener, opened⟩) ?_
    intro entries grown
    rw [← grown]
    simp [Growth.ofEntries, Ledger.beginElse, Ledger.advance, isOpen]
  | closeIf reads later ih =>
    obtain ⟨ready, inChapter, current, opener, isOpen⟩ := at_stage
    have moves : Ledger.Moves .strict ledger _ _ _ :=
      .closeIf ⟨reads, ready, begun⟩ (by simp [isOpen])
    refine moves.yields rfl (ih begun ⟨ready, inChapter, current, rfl⟩) ?_
    intro entries grown
    rw [← grown]
    rfl

namespace Ledger

variable {ledger next : Ledger} {stage : Stage} {token : Token} {rest : List Token}
  {growth : Growth} {entry : Option Entry}

/-- Inside of a section, a branch is open or not. -/
theorem At.of_section (at_stage : ledger.At stage) (ready : ledger.pending = none)
    (inside : ledger.branch.isSome ∨ ledger.sectionId.isSome) :
    ∃ chapterId, ledger.chapterId = some chapterId ∧ ledger.sectionId.isSome ∧
      (stage = .inSection chapterId ∧ ledger.branch = none ∨
        ∃ condition opener hasElse, stage = .inBranch chapterId condition hasElse ∧
          ledger.branch = some ⟨condition, opener, hasElse⟩) := by
  cases stage with
  | book => simp [At] at at_stage; simp [at_stage] at inside
  | chapterTitle id => simp [At, ready] at at_stage
  | chapter chapterId => simp [At] at at_stage; simp [at_stage] at inside
  | sectionTitle chapterId id => simp [At, ready] at at_stage
  | inSection chapterId =>
    obtain ⟨-, inChapter, current, closed⟩ := at_stage
    exact ⟨chapterId, inChapter, current, .inl ⟨rfl, closed⟩⟩
  | inBranch chapterId condition hasElse =>
    obtain ⟨-, inChapter, current, opener, isOpen⟩ := at_stage
    exact ⟨chapterId, inChapter, current, .inr ⟨condition, opener, hasElse, rfl, isOpen⟩⟩

theorem At.isBetween (at_stage : ledger.At stage) (ready : ledger.pending = none)
    (closed : ledger.branch = none) : stage.isBetween = true := by
  cases stage with
  | book => rfl
  | chapterTitle id => simp [At, ready] at at_stage
  | chapter chapterId => rfl
  | sectionTitle chapterId id => simp [At, ready] at at_stage
  | inSection chapterId => rfl
  | inBranch chapterId condition hasElse => simp [At, closed] at at_stage

theorem At.chapterId?_eq (at_stage : ledger.At stage) (ready : ledger.pending = none)
    (inChapter : ledger.chapterId.isSome) (closed : ledger.branch = none) :
    ∃ chapterId, stage.chapterId? = some chapterId ∧ ledger.chapterId = some chapterId := by
  cases stage with
  | book => simp [At] at at_stage; simp [at_stage] at inChapter
  | chapterTitle id => simp [At, ready] at at_stage
  | chapter chapterId => exact ⟨chapterId, rfl, at_stage.2.1⟩
  | sectionTitle chapterId id => simp [At, ready] at at_stage
  | inSection chapterId => exact ⟨chapterId, rfl, at_stage.2.1⟩
  | inBranch chapterId condition hasElse => simp [At, closed] at at_stage

theorem At.continues_leaf {leaf : Leaf} {entries : List Entry} (at_stage : ledger.At stage)
    (ready : ledger.pending = none) (inside : ledger.branch.isSome ∨ ledger.sectionId.isSome)
    (derives : DerivesLeaf token leaf)
    (later : Continues stage rest (.ofEntries ledger.branch.isSome entries)) :
    Continues stage (token :: rest) (.ofEntries ledger.branch.isSome (.leaf leaf :: entries)) := by
  rcases at_stage.of_section ready inside with
    ⟨chapterId, -, -, ⟨rfl, closed⟩ | ⟨condition, opener, hasElse, rfl, isOpen⟩⟩
  · rw [closed] at later ⊢
    exact .leaf derives later
  · rw [isOpen] at later ⊢
    exact .innerLeaf derives later

theorem At.continues_link {link : Link} {entries : List Entry} (at_stage : ledger.At stage)
    (ready : ledger.pending = none) (current : ledger.sectionId.isSome)
    (derives : ∀ chapterId, ledger.chapterId = some chapterId → DerivesLink chapterId token link)
    (later : Continues stage rest (.ofEntries ledger.branch.isSome entries)) :
    Continues stage (token :: rest) (.ofEntries ledger.branch.isSome (.link link :: entries)) := by
  rcases at_stage.of_section ready (.inr current) with
    ⟨chapterId, inChapter, -, ⟨rfl, closed⟩ | ⟨condition, opener, hasElse, rfl, isOpen⟩⟩
  · exact .link (derives chapterId inChapter) later
  · exact .innerLink (derives chapterId inChapter) later

theorem At.advance (at_stage : ledger.At stage) : ledger.advance.At stage := by
  cases stage <;> exact at_stage

/-- A title that is due leads from the stage of its heading to what it opens. -/
theorem At.follows_title {pending : Pending} {later : List Entry} (at_stage : ledger.At stage)
    (waiting : ledger.pending = some pending) (isParagraph : token.kind = .paragraph) :
    let (next, entry) := ledger.entitle pending.heading token.text
    ∃ after, next.At after ∧ next.title = ledger.title ∧
      (Continues after rest (.ofEntries next.branch.isSome later) →
        Continues stage (token :: rest)
          (.ofEntries ledger.branch.isSome (entry.toList ++ later))) := by
  cases stage with
  | chapterTitle id =>
    obtain ⟨⟨opening, due⟩, closed⟩ := at_stage
    obtain rfl := Option.some.inj (waiting.symm.trans due)
    exact ⟨.chapter id, ⟨rfl, rfl, rfl, closed⟩, rfl, .chapterTitle isParagraph⟩
  | sectionTitle chapterId id =>
    obtain ⟨⟨opening, due⟩, inChapter, closed⟩ := at_stage
    obtain rfl := Option.some.inj (waiting.symm.trans due)
    exact ⟨.inSection chapterId, ⟨rfl, inChapter, rfl, closed⟩, rfl, .sectionTitle isParagraph⟩
  | book => simp [at_stage.1] at waiting
  | chapter chapterId => simp [at_stage.1] at waiting
  | inSection chapterId => simp [at_stage.1] at waiting
  | inBranch chapterId condition hasElse => simp [at_stage.1] at waiting

/-- A move leads from a stage to a stage.  What can follow at the second can follow
at the first behind the token, and adds the entry of the move in front. -/
theorem Moves.follows {later : List Entry} (moves : Moves .strict ledger token next entry)
    (at_stage : ledger.At stage) (begun : ledger.title.isSome) :
    ∃ after, next.At after ∧ next.title = ledger.title ∧
      (Continues after rest (.ofEntries next.branch.isSome later) →
        Continues stage (token :: rest)
          (.ofEntries ledger.branch.isSome (entry.toList ++ later))) := by
  cases moves with
  | title waiting isParagraph => exact at_stage.follows_title waiting isParagraph
  | openBook reads ready unbegun => simp [unbegun] at begun
  | @openChapter id _ takes unopened =>
    exact ⟨.chapterTitle id, ⟨⟨token, rfl⟩, unopened rfl⟩, rfl,
      .openChapter (at_stage.isBetween takes.ready (unopened rfl)) takes.toReads⟩
  | @openSection id _ takes inChapter unopened =>
    obtain ⟨chapterId, within, inChapter⟩ :=
      at_stage.chapterId?_eq takes.ready inChapter (unopened rfl)
    exact ⟨.sectionTitle chapterId id, ⟨⟨token, rfl⟩, inChapter, unopened rfl⟩, rfl,
      .openSection within takes.toReads⟩
  | paragraph isParagraph ready begun inside =>
    exact ⟨stage, at_stage.advance, rfl,
      at_stage.continues_leaf ready inside (.paragraph isParagraph)⟩
  | state takes inside =>
    exact ⟨stage, at_stage.advance, rfl,
      at_stage.continues_leaf takes.ready inside (.state takes.toReads)⟩
  | addItem takes kept current =>
    exact ⟨stage, at_stage.advance, rfl,
      at_stage.continues_leaf takes.ready (.inr current) (.addItem takes.toReads kept)⟩
  | removeItem takes removed current =>
    exact ⟨stage, at_stage.advance, rfl,
      at_stage.continues_leaf takes.ready (.inr current) (.removeItem takes.toReads removed)⟩
  | next takes inChapter current =>
    refine ⟨stage, at_stage.advance, rfl, at_stage.continues_link takes.ready current ?_⟩
    intro chapterId found
    obtain rfl := Option.some.inj (inChapter.symm.trans found)
    exact .next takes.toReads
  | jump takes current =>
    exact ⟨stage, at_stage.advance, rfl,
      at_stage.continues_link takes.ready current fun _ _ => .jump takes.toReads⟩
  | @openIf word more takes unopened current =>
    rcases at_stage.of_section takes.ready (.inr current) with
      ⟨chapterId, inChapter, -, ⟨rfl, -⟩ | ⟨condition, opener, hasElse, rfl, isOpen⟩⟩
    · exact ⟨.inBranch chapterId (" ".intercalate (word :: more)) false,
        ⟨takes.ready, inChapter, current, token, rfl⟩, rfl, .openIf takes.toReads⟩
    · simp [isOpen] at unopened
  | openElse takes isOpen single current =>
    rcases at_stage.of_section takes.ready (.inr current) with
      ⟨chapterId, inChapter, -, ⟨rfl, unopened⟩ | ⟨condition, opener, hasElse, rfl, found⟩⟩
    · simp [unopened] at isOpen
    · obtain rfl := Option.some.inj (isOpen.symm.trans found)
      obtain rfl : hasElse = false := single rfl
      have opened : ledger.beginElse.advance.branch = some ⟨condition, opener, true⟩ := by
        simp [Ledger.beginElse, Ledger.advance, isOpen]
      refine ⟨.inBranch chapterId condition true,
        ⟨takes.ready, inChapter, current, opener, opened⟩, rfl, ?_⟩
      rw [opened]
      exact .openElse takes.toReads
  | closeIf takes isOpen =>
    rcases at_stage.of_section takes.ready (.inl isOpen) with
      ⟨chapterId, inChapter, current, ⟨rfl, unopened⟩ | ⟨condition, opener, hasElse, rfl, found⟩⟩
    · simp [unopened] at isOpen
    · exact ⟨.inSection chapterId, ⟨takes.ready, inChapter, current, rfl⟩, rfl,
        .closeIf takes.toReads⟩

end Ledger

/-- What a strict run by ledger accepts from a stage on can follow there. -/
theorem continues_of_run {stage : Stage} {tokens : List Token} {ledger last : Ledger}
    {entries : List Entry} (at_stage : ledger.At stage) (begun : ledger.title.isSome)
    (ran : Ledger.run .strict ledger tokens = .ok (last, entries)) (ended : last.pending = none)
    (closed : last.branch = none) :
    Continues stage tokens (.ofEntries ledger.branch.isSome entries) := by
  induction tokens generalizing ledger stage entries with
  | nil =>
    cases ran
    exact .done (at_stage.isBetween ended closed)
  | cons token rest ih =>
    obtain ⟨next, entry, later, moves, onward, rfl⟩ := Ledger.run_cons_eq_ok_iff.mp ran
    obtain ⟨after, next_at, sameTitle, follows⟩ := moves.follows at_stage begun
    exact follows (ih next_at (sameTitle ▸ begun) onward)

end Gamebook.Script
