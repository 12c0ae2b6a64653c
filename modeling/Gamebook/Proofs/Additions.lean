import Gamebook.Proofs.Homes

/-!
# What the tokens of a script add

A token that a run accepts is a heading, a title, or it adds something by itself:
`Adds` says what, and what is open there.  A run that goes on from an index
reaches every index behind (`GoesOn.reaches`).  So each token of a script adds what
it says, and each home that `home?` gives is that of the current section or of the
open branch.
-/

namespace Gamebook.Script

open Gamebook.Story

/-! ## What is accepted -/

/-- What a token adds that is no heading and no title. -/
inductive Adds (tokens : List Token) (index : Nat) : Prop where
  /-- An element without a body. -/
  | leaf {leaf : Leaf} (isLeaf : IsLeaf tokens index)
      (entry : entryAt? tokens index = some (.leaf leaf))
      (inside : openIf? tokens index ≠ none ∨ currentSection? tokens index ≠ none) :
      Adds tokens index
  /-- A link. -/
  | link {link : Link}
      (named : namesAt tokens .next index = true ∨ namesAt tokens .jump index = true)
      (entry : entryAt? tokens index = some (.link link))
      (inSection : currentSection? tokens index ≠ none) : Adds tokens index
  /-- A branch. -/
  | openIf {condition : String} (named : namesAt tokens .openIf index = true)
      (entry : entryAt? tokens index = some (.openBranch .ifBranch condition))
      (closed : openIf? tokens index = none) (inSection : currentSection? tokens index ≠ none) :
      Adds tokens index
  /-- An alternative. -/
  | openElse {condition : String} (named : namesAt tokens .openElse index = true)
      (entry : entryAt? tokens index = some (.openBranch .elseBranch condition))
      (isOpen : openIf? tokens index ≠ none) (inSection : currentSection? tokens index ≠ none) :
      Adds tokens index
  /-- The end of a branch. -/
  | closeIf (named : namesAt tokens .closeIf index = true)
      (entry : entryAt? tokens index = some .closeBranch)
      (isOpen : openIf? tokens index ≠ none) : Adds tokens index

section Accepted

variable {mode : Mode} {tokens : List Token} {index heading : Nat} {token : Token}
  {keyword : Keyword} {fields : List String}

theorem currentSection?_ne_none (current : (ledgerAt tokens index).sectionId.isSome) :
    currentSection? tokens index ≠ none := by
  intro missing
  simp [ledgerAt, missing] at current

theorem openIf?_ne_none (isOpen : (ledgerAt tokens index).branch.isSome) :
    openIf? tokens index ≠ none := by
  intro missing
  have closed : (ledgerAt tokens index).branch = none := branchAt?_eq_none_iff.mpr missing
  simp [closed] at isOpen

/-- A move to the next index is one of the additions. -/
theorem Ledger.Moves.adds (found : tokens[index]? = some token)
    (moves : (ledgerAt tokens index).Moves mode token (ledgerAt tokens (index + 1))
      (entryAt? tokens index)) : Adds tokens index := by
  have ended : (ledgerAt tokens (index + 1)).pending = none := rfl
  generalize ledgerAt tokens (index + 1) = next at moves ended
  generalize entered : entryAt? tokens index = entry at moves
  have inside (given : (ledgerAt tokens index).branch.isSome ∨
      (ledgerAt tokens index).sectionId.isSome) :
      openIf? tokens index ≠ none ∨ currentSection? tokens index ≠ none :=
    given.imp openIf?_ne_none currentSection?_ne_none
  cases moves with
  | title waiting isParagraph => cases waiting
  | openBook reads ready unbegun => cases ended
  | openChapter takes closed => cases ended
  | openSection takes inChapter closed => cases ended
  | paragraph isParagraph ready begun within =>
    have untitled : isTitle tokens index = false := by
      cases titled : isTitle tokens index with
      | false => rfl
      | true => simp [entryAt?_of_paragraph found isParagraph, titled] at entered
    exact .leaf (.inr (.inr ⟨token, found, isParagraph, untitled⟩)) entered (inside within)
  | state takes within =>
    exact .leaf (.inl (namesAt_of_reads_self found takes.toReads)) entered (inside within)
  | addItem takes kept inSection =>
    exact .leaf (.inr (.inl (namesAt_of_reads_self found takes.toReads))) entered
      (inside (.inr inSection))
  | removeItem takes removed inSection =>
    exact .leaf (.inr (.inl (namesAt_of_reads_self found takes.toReads))) entered
      (inside (.inr inSection))
  | next takes inChapter inSection =>
    exact .link (.inl (namesAt_of_reads_self found takes.toReads)) entered
      (currentSection?_ne_none inSection)
  | jump takes inSection =>
    exact .link (.inr (namesAt_of_reads_self found takes.toReads)) entered
      (currentSection?_ne_none inSection)
  | openIf takes closed inSection =>
    exact .openIf (namesAt_of_reads_self found takes.toReads) entered
      (branchAt?_eq_none_iff.mp closed) (currentSection?_ne_none inSection)
  | openElse takes isOpen single inSection =>
    exact .openElse (namesAt_of_reads_self found takes.toReads) entered
      (openIf?_ne_none (by rw [isOpen]; rfl)) (currentSection?_ne_none inSection)
  | closeIf takes isOpen =>
    exact .closeIf (namesAt_of_reads_self found takes.toReads) entered (openIf?_ne_none isOpen)

/-- The current section is the last one, and no chapter has begun since. -/
theorem of_currentSection?_eq_some (current : currentSection? tokens index = some heading) :
    lastBefore? tokens .openSection index = some heading ∧
      ∀ between, heading < between → between < index →
        namesAt tokens .openChapter between = false := by
  obtain ⟨found, before⟩ := Option.filter_eq_some_iff.mp current
  refine ⟨found, fun between after below => ?_⟩
  cases begun : lastBefore? tokens .openChapter index with
  | none => exact of_lastBefore?_eq_none begun between below
  | some chapter =>
    have earlier : chapter < heading := by simpa [begun] using before
    exact (of_lastBefore?_eq_some begun).2.2 between (by omega) below

theorem currentSection?_eq_lastBefore? (inSection : currentSection? tokens index ≠ none) :
    currentSection? tokens index = lastBefore? tokens .openSection index := by
  cases current : currentSection? tokens index with
  | none => exact absurd current inSection
  | some heading => exact (of_currentSection?_eq_some current).1.symm

/-! ### From an index on -/

theorem elements_of_leafHome? (lives : leafHome? tokens index = some (.elements heading)) :
    innermost? tokens index = none := by
  cases isOpen : innermost? tokens index with
  | none => rfl
  | some opening => simp [leafHome?, isOpen] at lives

theorem leafHome?_ne_links : leafHome? tokens index ≠ some (.links heading) := by
  unfold leafHome?
  cases innermost? tokens index <;> simp

/-- What goes to a section goes to the current one. -/
theorem Adds.current (adds : Adds tokens index)
    (lives : home? tokens index = some (.elements heading) ∨
      home? tokens index = some (.links heading)) :
    currentSection? tokens index = some heading := by
  have last : lastBefore? tokens .openSection index = some heading :=
    lives.elim openAt_of_home? openAt_of_home?
  have of_inSection (inSection : currentSection? tokens index ≠ none) :
      currentSection? tokens index = some heading :=
    (currentSection?_eq_lastBefore? inSection).trans last
  cases adds with
  | leaf isLeaf entry inside =>
    rw [home?_of_isLeaf isLeaf] at lives
    have outside := elements_of_leafHome? (lives.resolve_right leafHome?_ne_links)
    exact of_inSection (inside.resolve_left (not_not_intro (innermost?_eq_none_iff.mp outside)))
  | link named entry inSection => exact of_inSection inSection
  | openIf named entry closed inSection => exact of_inSection inSection
  | openElse named entry isOpen inSection => exact of_inSection inSection
  | closeIf named entry isOpen => simp [home?_of_names named, commandHome?] at lives

/-- Headings and titles do not go to a section. -/
theorem Token.Opens.home?_ne {opening : Heading} (found : tokens[index]? = some token)
    (opens : token.Opens opening) (heading : Nat) : home? tokens index ≠ some (.elements heading) ∧
      home? tokens index ≠ some (.links heading) := by
  obtain ⟨fields, reads⟩ := opens.reads
  rw [home?_of_reads found reads]
  cases opening <;> simp [Heading.keyword, commandHome?]

/-- Where a script goes on, what goes to a section goes to the current one. -/
theorem GoesOn.current (goes : GoesOn mode tokens index) {later : Nat} (after : index ≤ later)
    (lives : home? tokens later = some (.elements heading) ∨
      home? tokens later = some (.links heading)) :
    currentSection? tokens later = some heading := by
  induction goes with
  | done =>
    have nothing : home? tokens later = none := by
      simp [home?, List.getElem?_eq_none_iff.mpr after]
    simp [nothing] at lives
  | token found moves _ ih =>
    rcases Nat.eq_or_lt_of_le after with rfl | after
    · exact (moves.adds found).current lives
    · exact ih after
  | heading found opens moves titled isParagraph _ ih =>
    rcases Nat.eq_or_lt_of_le after with rfl | after
    · have apart := opens.home?_ne found heading
      simp [apart] at lives
    · rcases Nat.eq_or_lt_of_le after with rfl | beyond
      · simp [home?_of_title titled isParagraph (isTitle_succ_of_opens found opens)] at lives
      · exact ih beyond

end Accepted

/-! ## Every index -/

section Reached

variable {mode : Mode} {tokens : List Token} {index later : Nat} {token : Token}

/-- A section begins in a chapter. -/
theorem Ledger.Moves.inChapter {ledger next : Ledger} {entry : Option Entry}
    (moves : ledger.Moves mode token next entry) (named : token.names .openSection = true) :
    ledger.chapterId.isSome := by
  cases moves with
  | openSection takes inChapter closed => exact inChapter
  | title waiting isParagraph => simp [Token.names, isParagraph] at named
  | paragraph isParagraph ready begun inside => simp [Token.names, isParagraph] at named
  | openBook reads ready unbegun => simp [reads.names_eq] at named
  | _ takes => simp [takes.names_eq] at named

theorem exists_chapter (inChapter : (ledgerAt tokens index).chapterId.isSome) :
    ∃ chapter, lastBefore? tokens .openChapter index = some chapter := by
  cases begun : lastBefore? tokens .openChapter index with
  | none => simp [ledgerAt, chapterIdAt?, begun] at inChapter
  | some chapter => exact ⟨chapter, rfl⟩

/-- A script that goes on reaches every index behind, but for titles. -/
theorem GoesOn.reaches (goes : GoesOn mode tokens index) (after : index ≤ later)
    (within : later ≤ tokens.length) : GoesOn mode tokens later ∨
      ∃ title, tokens[later]? = some title ∧ title.kind = .paragraph ∧
        isTitle tokens later = true := by
  induction goes with
  | done =>
    obtain rfl : later = tokens.length := Nat.le_antisymm within after
    exact .inl .done
  | token found moves onward ih =>
    rcases Nat.eq_or_lt_of_le after with rfl | after
    · exact .inl (.token found moves onward)
    · exact ih after
  | heading found opens moves titled isParagraph onward ih =>
    rcases Nat.eq_or_lt_of_le after with rfl | after
    · exact .inl (.heading found opens moves titled isParagraph onward)
    · rcases Nat.eq_or_lt_of_le after with rfl | beyond
      · exact .inr ⟨_, titled, isParagraph, isTitle_succ_of_opens found opens⟩
      · exact ih beyond

theorem GoesOn.reaches_of_names (goes : GoesOn mode tokens 0) {keyword : Keyword}
    (named : namesAt tokens keyword later = true) : GoesOn mode tokens later := by
  refine (goes.reaches (Nat.zero_le _) (Nat.le_of_lt (lt_length_of_namesAt named))).resolve_right ?_
  rintro ⟨title, titled, isParagraph, -⟩
  simp [namesAt_of_paragraph titled isParagraph] at named

/-- What is no heading adds something by itself. -/
theorem GoesOn.adds (goes : GoesOn mode tokens index) (below : index < tokens.length)
    (plain : Lacks tokens Keyword.isHeading index) : Adds tokens index := by
  cases goes with
  | done => omega
  | token found moves onward => exact moves.adds found
  | @heading _ _ _ heading found opens moves titled isParagraph onward =>
    obtain ⟨fields, reads⟩ := opens.reads
    have named := namesAt_of_reads_self found reads
    simp [plain heading.keyword heading.isHeading_keyword] at named

theorem GoesOn.adds_of_names (goes : GoesOn mode tokens 0) {keyword : Keyword}
    (named : namesAt tokens keyword index = true) (plain : keyword.isHeading = false) :
    Adds tokens index :=
  (goes.reaches_of_names named).adds (lt_length_of_namesAt named) (lacks_of_names named plain)

theorem GoesOn.adds_of_isLeaf (goes : GoesOn mode tokens 0) (isLeaf : IsLeaf tokens index) :
    Adds tokens index := by
  have plain : Lacks tokens Keyword.isHeading index := isLeaf.lacks rfl rfl
  rcases isLeaf with named | named | ⟨token, found, -, untitled⟩
  · exact goes.adds_of_names named rfl
  · exact goes.adds_of_names named rfl
  · have below := (List.getElem?_eq_some_iff.mp found).1
    have reached := (goes.reaches (Nat.zero_le index) (Nat.le_of_lt below)).resolve_right
      (by simp [untitled])
    exact reached.adds below plain

/-- The keyword is that of a branch or link. -/
def Keyword.needsSection : Keyword → Bool
  | .openIf | .openElse | .next | .jump => true
  | _ => false

/-- Branches and links are in a section. -/
theorem GoesOn.inSection (goes : GoesOn mode tokens 0) {keyword : Keyword}
    (named : namesAt tokens keyword index = true) (plain : keyword.isHeading = false)
    (needs : keyword.needsSection = true) : currentSection? tokens index ≠ none := by
  cases goes.adds_of_names named plain with
  | leaf isLeaf =>
    have lacks : Lacks tokens Keyword.needsSection index := isLeaf.lacks rfl rfl
    simp [lacks keyword needs] at named
  | link _ _ inSection => exact inSection
  | openIf _ _ _ inSection => exact inSection
  | openElse _ _ _ inSection => exact inSection
  | closeIf ends =>
    have lacks : Lacks tokens Keyword.needsSection index := lacks_of_names ends rfl
    simp [lacks keyword needs] at named

/-- What has no home in a section is in a branch. -/
theorem Adds.inside (adds : Adds tokens index) :
    openIf? tokens index ≠ none ∨ currentSection? tokens index ≠ none := by
  cases adds with
  | leaf _ _ inside => exact inside
  | link _ _ inSection => exact .inr inSection
  | openIf _ _ _ inSection => exact .inr inSection
  | openElse _ _ _ inSection => exact .inr inSection
  | closeIf _ _ isOpen => exact .inl isOpen

/-- Sections are in a chapter. -/
theorem GoesOn.begun (goes : GoesOn mode tokens 0)
    (named : namesAt tokens .openSection index = true) :
    ∃ chapter, lastBefore? tokens .openChapter index = some chapter := by
  have below := lt_length_of_namesAt named
  cases goes.reaches_of_names named with
  | done => omega
  | token found moves => exact exists_chapter (moves.inChapter (namesAt_of_found found _ ▸ named))
  | heading found _ moves =>
    exact exists_chapter (moves.inChapter (namesAt_of_found found _ ▸ named))

theorem Adds.gets {home : Home} (adds : Adds tokens index)
    (lives : home? tokens index = some home) : home.Gets tokens index := by
  cases adds with
  | leaf isLeaf entry inside =>
    rw [home?_of_isLeaf isLeaf, leafHome?] at lives
    cases isOpen : innermost? tokens index with
    | some opening =>
      obtain rfl : .body opening = home := by simpa [isOpen] using lives
      exact ⟨_, leafAt?_of_entry entry⟩
    | none =>
      obtain ⟨heading, -, rfl⟩ := Option.map_eq_some_iff.mp (isOpen ▸ lives)
      exact ⟨_, elementAt?_of_leaf entry⟩
  | link named entry inSection =>
    have last := currentSection?_eq_lastBefore? inSection
    obtain ⟨heading, current⟩ := Option.ne_none_iff_exists'.mp inSection
    rw [home?_of_link named (last.symm.trans current)] at lives
    cases lives
    exact ⟨_, linkAt?_of_entry entry⟩
  | openIf named entry closed inSection =>
    have last := currentSection?_eq_lastBefore? inSection
    obtain ⟨heading, current⟩ := Option.ne_none_iff_exists'.mp inSection
    rw [home?_of_branch (.inl named) (last.symm.trans current)] at lives
    cases lives
    exact ⟨_, elementAt?_of_branch entry⟩
  | openElse named entry isOpen inSection =>
    have last := currentSection?_eq_lastBefore? inSection
    obtain ⟨heading, current⟩ := Option.ne_none_iff_exists'.mp inSection
    rw [home?_of_branch (.inr named) (last.symm.trans current)] at lives
    cases lives
    exact ⟨_, elementAt?_of_branch entry⟩
  | closeIf named entry isOpen => simp [home?_of_names named, commandHome?] at lives

/-- What has its home in a list is an item of it. -/
theorem GoesOn.gets (goes : GoesOn mode tokens 0) {home : Home}
    (lives : home? tokens index = some home) : home.Gets tokens index := by
  have below : index < tokens.length := by
    refine Nat.lt_of_not_le fun beyond => ?_
    simp [home?_of_beyond beyond] at lives
  rcases goes.reaches (Nat.zero_le index) (Nat.le_of_lt below) with
    reached | ⟨title, titled, isParagraph, isTitle⟩
  · cases reached with
    | done => omega
    | token found moves => exact (moves.adds found).gets lives
    | @heading _ _ title heading found opens moves titled isParagraph =>
      have whole := ledgerAt_after_title found opens titled isParagraph
      obtain ⟨fields, reads⟩ := opens.reads
      rw [home?_of_reads found reads] at lives
      cases heading with
      | ofBook => cases lives
      | ofChapter id =>
        cases lives
        exact ⟨_, chapterAt?_of_entry (congrArg Prod.snd whole).symm⟩
      | ofSection id =>
        obtain ⟨chapter, -, rfl⟩ := Option.map_eq_some_iff.mp lives
        exact ⟨_, sectionAt?_of_entry (congrArg Prod.snd whole).symm⟩
  · simp [home?_of_title titled isParagraph isTitle] at lives

end Reached

end Gamebook.Script
