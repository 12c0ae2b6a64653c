import Gamebook.Proofs.Additions
import Gamebook.Proofs.Simulation

/-!
# The book that a script lays out

The book of a parse has each item of the tokens in its home (`laidOut_of_parse`),
in both modes.

The proof goes from the end of the tokens to the start.  What the tokens from an
index on add to the lists that are open there (`Growth.ofEntries`) is what has its
home there (`layoutFrom`).  There is one lemma for each kind of token.  A list that
is closed gets nothing more, since no later token has its home in it.
-/

namespace Gamebook.Script

open Gamebook.Story

/-! ## Lists that are closed -/

section Closed

variable {tokens : List Token} {index later opening heading : Nat}

/-- A body gets nothing once its branch is turned or closed. -/
theorem body_closed (isOpen : innermost? tokens index = some opening)
    (turns : namesAt tokens .openIf index = true ∨ namesAt tokens .openElse index = true ∨
      namesAt tokens .closeIf index = true) (after : index ≤ later) :
    home? tokens later ≠ some (.body opening) := by
  intro lives
  rcases Nat.eq_or_lt_of_le after with rfl | after
  · rcases turns with named | named | named <;>
      simp [home?_of_names named, commandHome?] at lives
  · have below := (of_innermost?_eq_some isOpen).1
    have isOpen' : innermost? tokens later = some opening := openAt_of_home? lives
    have unnamed := (of_innermost?_eq_some isOpen').2 index below after
    simp [unnamed] at turns

/-- Nothing that comes later has a home that a section before has opened. -/
theorem lastBefore?_ne_of_names {keyword : Keyword} (named : namesAt tokens keyword index = true)
    (below : heading < index) (after : index < later) :
    lastBefore? tokens keyword later ≠ some heading := by
  intro last
  have unnamed := (of_lastBefore?_eq_some last).2.2 index below after
  simp [named] at unnamed

theorem section_closed (named : namesAt tokens .openSection index = true)
    (below : heading < index) (after : index ≤ later) :
    home? tokens later ≠ some (.elements heading) ∧ home? tokens later ≠ some (.links heading) := by
  rcases Nat.eq_or_lt_of_le after with rfl | after
  · simp [home?_of_names named, commandHome?]
  · have apart := lastBefore?_ne_of_names named below after
    exact ⟨fun lives => apart (openAt_of_home? lives), fun lives => apart (openAt_of_home? lives)⟩

theorem chapter_closed (named : namesAt tokens .openChapter index = true)
    (below : heading < index) (after : index ≤ later) :
    home? tokens later ≠ some (.sections heading) := by
  rcases Nat.eq_or_lt_of_le after with rfl | after
  · simp [home?_of_names named, commandHome?]
  · exact fun lives => lastBefore?_ne_of_names named below after (openAt_of_home? lives)

/-- With its chapter a section is closed as well. -/
theorem GoesOn.section_closed {mode : Mode} (goes : GoesOn mode tokens index)
    (named : namesAt tokens .openChapter index = true) (below : heading < index)
    (after : index ≤ later) :
    home? tokens later ≠ some (.elements heading) ∧ home? tokens later ≠ some (.links heading) := by
  rcases Nat.eq_or_lt_of_le after with rfl | after'
  · simp [home?_of_names named, commandHome?]
  · have apart (lives : home? tokens later = some (.elements heading) ∨
        home? tokens later = some (.links heading)) : False := by
      have current := goes.current after lives
      have unnamed := (of_currentSection?_eq_some current).2 index below after'
      simp [named] at unnamed
    exact ⟨fun lives => apart (.inl lives), fun lives => apart (.inr lives)⟩

end Closed

/-! ## The layout from an index on -/

/-- What has its home from an index on in the list of this owner, if there is one. -/
def keptFrom {α : Type} (tokens : List Token) (item : Nat → Option α) (wrap : Nat → Home)
    (index : Nat) (owner : Option Nat) : List α :=
  owner.elim [] fun owner => (residentsFrom tokens index (wrap owner)).filterMap item

/-- What the tokens from an index on add to the lists that are open there. -/
def layoutFrom (tokens : List Token) (index : Nat) : Growth where
  body := keptFrom tokens (leafAt? tokens) .body index (innermost? tokens index)
  elements := keptFrom tokens (elementAt? tokens) .elements index (currentSection? tokens index)
  links := keptFrom tokens (linkAt? tokens) .links index (currentSection? tokens index)
  sections :=
    keptFrom tokens (sectionAt? tokens) .sections index (lastBefore? tokens .openChapter index)
  chapters := (residentsFrom tokens index .chapters).filterMap (chapterAt? tokens)

section Kept

variable {α : Type} {tokens : List Token} {item : Nat → Option α} {wrap : Nat → Home}
  {index owner : Nat} {owner? : Option Nat}

theorem keptFrom_of_here {a : α} (below : index < tokens.length)
    (lives : home? tokens index = some (wrap owner)) (made : item index = some a) :
    keptFrom tokens item wrap index (some owner) =
      a :: keptFrom tokens item wrap (index + 1) (some owner) := by
  simp only [keptFrom, Option.elim_some, residentsFrom_of_here below lives, List.filterMap_cons,
    made]

theorem keptFrom_of_elsewhere (apart : ∀ owner, home? tokens index ≠ some (wrap owner)) :
    keptFrom tokens item wrap index owner? = keptFrom tokens item wrap (index + 1) owner? := by
  cases owner? with
  | none => rfl
  | some owner => simp only [keptFrom, Option.elim_some, residentsFrom_of_elsewhere (apart owner)]

theorem keptFrom_eq_nil (closed : ∀ owner, owner? = some owner →
    ∀ later, index ≤ later → home? tokens later ≠ some (wrap owner)) :
    keptFrom tokens item wrap index owner? = [] := by
  cases owner? with
  | none => rfl
  | some owner =>
    simp only [keptFrom, Option.elim_some, residentsFrom_eq_nil (closed owner rfl),
      List.filterMap_nil]

/-- A list of an owner at an index has all that it will have from the next index on. -/
theorem keptFrom_eq_residents
    (apart : ∀ earlier, earlier < index → home? tokens earlier ≠ some (wrap owner)) :
    keptFrom tokens item wrap index (some owner) =
      (residents tokens (wrap owner)).filterMap item := by
  simp only [keptFrom, Option.elim_some, residents_eq_residentsFrom apart]

/-- A list has all that it will have behind the directive that it belongs to, since
nothing goes there before. -/
theorem keptFrom_of_opened
    (behind : ∀ place, home? tokens place = some (wrap index) → index < place) :
    keptFrom tokens item wrap (index + 1) (some index) =
      (residents tokens (wrap index)).filterMap item := by
  refine keptFrom_eq_residents fun earlier before lives => ?_
  have after := behind earlier lives
  omega

end Kept

section Step

variable {tokens : List Token} {index : Nat} {token title : Token} {rest : List Entry}

theorem innermost?_succ (steady : Lacks tokens Keyword.isBranching index) :
    innermost? tokens (index + 1) = innermost? tokens index := by
  rw [innermost?, innermost?, openIf?_succ steady, openElse?_succ steady]

/-! ### Lists that a token leaves as they are -/

theorem layoutFrom_body_succ (steady : Lacks tokens Keyword.isBranching index)
    (apart : ∀ opening, home? tokens index ≠ some (.body opening)) :
    (layoutFrom tokens index).body = (layoutFrom tokens (index + 1)).body := by
  simp only [layoutFrom, innermost?_succ steady]
  exact keptFrom_of_elsewhere apart

theorem layoutFrom_elements_succ (stays : Lacks tokens Keyword.isPlace index)
    (apart : ∀ heading, home? tokens index ≠ some (.elements heading)) :
    (layoutFrom tokens index).elements = (layoutFrom tokens (index + 1)).elements := by
  simp only [layoutFrom, currentSection?_succ stays]
  exact keptFrom_of_elsewhere apart

theorem layoutFrom_links_succ (stays : Lacks tokens Keyword.isPlace index)
    (apart : ∀ heading, home? tokens index ≠ some (.links heading)) :
    (layoutFrom tokens index).links = (layoutFrom tokens (index + 1)).links := by
  simp only [layoutFrom, currentSection?_succ stays]
  exact keptFrom_of_elsewhere apart

theorem layoutFrom_sections_succ (noChapter : namesAt tokens .openChapter index = false)
    (apart : ∀ heading, home? tokens index ≠ some (.sections heading)) :
    (layoutFrom tokens index).sections = (layoutFrom tokens (index + 1)).sections := by
  simp only [layoutFrom, lastBefore?_succ_of_not noChapter]
  exact keptFrom_of_elsewhere apart

theorem layoutFrom_chapters_succ (apart : home? tokens index ≠ some .chapters) :
    (layoutFrom tokens index).chapters = (layoutFrom tokens (index + 1)).chapters := by
  simp only [layoutFrom, residentsFrom_of_elsewhere apart]

/-! ### One token -/

/-- An element that goes to the current section comes first there. -/
theorem layoutFrom_elements_of_here {heading : Nat} {element : Element}
    (below : index < tokens.length) (stays : Lacks tokens Keyword.isPlace index)
    (current : currentSection? tokens index = some heading)
    (lives : home? tokens index = some (.elements heading))
    (made : elementAt? tokens index = some element) :
    (layoutFrom tokens index).elements = element :: (layoutFrom tokens (index + 1)).elements := by
  simp only [layoutFrom, currentSection?_succ stays, current]
  exact keptFrom_of_here below lives made

/-- An element in a branch comes first in the body. -/
theorem layoutFrom_of_inner {leaf : Leaf} (below : index < tokens.length)
    (isLeaf : IsLeaf tokens index) (entry : entryAt? tokens index = some (.leaf leaf))
    {opening : Nat} (isOpen : innermost? tokens index = some opening)
    (grown : .ofEntries true rest = layoutFrom tokens (index + 1)) :
    .ofEntries true (.leaf leaf :: rest) = layoutFrom tokens index := by
  have lives : home? tokens index = some (.body opening) := by
    rw [home?_of_isLeaf isLeaf, leafHome?, isOpen]
  have stays : Lacks tokens Keyword.isPlace index := isLeaf.lacks rfl rfl
  simp only [Growth.ofEntries, grown, if_true]
  refine Growth.ext ?body ?elements ?links ?sections ?chapters
  case body =>
    simp only [layoutFrom, innermost?_succ (isLeaf.lacks rfl rfl), isOpen]
    exact (keptFrom_of_here below lives (leafAt?_of_entry entry)).symm
  case elements => exact (layoutFrom_elements_succ stays (by simp [lives])).symm
  case links => exact (layoutFrom_links_succ stays (by simp [lives])).symm
  case sections => exact (layoutFrom_sections_succ (stays .openChapter rfl) (by simp [lives])).symm
  case chapters => exact (layoutFrom_chapters_succ (by simp [lives])).symm

/-- An element outside of branches comes first in the section. -/
theorem layoutFrom_of_outer {leaf : Leaf} (below : index < tokens.length)
    (isLeaf : IsLeaf tokens index) (entry : entryAt? tokens index = some (.leaf leaf))
    (outside : innermost? tokens index = none) (inSection : currentSection? tokens index ≠ none)
    (grown : .ofEntries false rest = layoutFrom tokens (index + 1)) :
    .ofEntries false (.leaf leaf :: rest) = layoutFrom tokens index := by
  obtain ⟨heading, current⟩ := Option.ne_none_iff_exists'.mp inSection
  have lives : home? tokens index = some (.elements heading) := by
    rw [home?_of_isLeaf isLeaf, leafHome?, outside]
    exact congrArg (Option.map _) (of_currentSection?_eq_some current).1
  have stays : Lacks tokens Keyword.isPlace index := isLeaf.lacks rfl rfl
  simp only [Growth.ofEntries, grown, Bool.false_eq_true, if_false]
  refine Growth.ext ?body ?elements ?links ?sections ?chapters
  case body => exact (layoutFrom_body_succ (isLeaf.lacks rfl rfl) (by simp [lives])).symm
  case elements =>
    exact (layoutFrom_elements_of_here below stays current lives (elementAt?_of_leaf entry)).symm
  case links => exact (layoutFrom_links_succ stays (by simp [lives])).symm
  case sections => exact (layoutFrom_sections_succ (stays .openChapter rfl) (by simp [lives])).symm
  case chapters => exact (layoutFrom_chapters_succ (by simp [lives])).symm

/-- A link comes first in the links of the section. -/
theorem layoutFrom_of_link {link : Link} {inBranch : Bool} (below : index < tokens.length)
    (named : namesAt tokens .next index = true ∨ namesAt tokens .jump index = true)
    (entry : entryAt? tokens index = some (.link link))
    (inSection : currentSection? tokens index ≠ none)
    (grown : .ofEntries inBranch rest = layoutFrom tokens (index + 1)) :
    .ofEntries inBranch (.link link :: rest) = layoutFrom tokens index := by
  obtain ⟨heading, current⟩ := Option.ne_none_iff_exists'.mp inSection
  have lives := home?_of_link named (of_currentSection?_eq_some current).1
  have stays : Lacks tokens Keyword.isPlace index := lacks_of_link named rfl rfl
  simp only [Growth.ofEntries, grown]
  refine Growth.ext ?body ?elements ?links ?sections ?chapters
  case body => exact (layoutFrom_body_succ (lacks_of_link named rfl rfl) (by simp [lives])).symm
  case elements => exact (layoutFrom_elements_succ stays (by simp [lives])).symm
  case links =>
    simp only [layoutFrom, currentSection?_succ stays, current]
    exact (keptFrom_of_here below lives (linkAt?_of_entry entry)).symm
  case sections => exact (layoutFrom_sections_succ (stays .openChapter rfl) (by simp [lives])).symm
  case chapters => exact (layoutFrom_chapters_succ (by simp [lives])).symm

/-- A branch comes first in the section, and its body is what follows in it. -/
theorem layoutFrom_of_openBranch {kind : BranchKind} {condition : String} {inBranch : Bool}
    (below : index < tokens.length)
    (named : namesAt tokens .openIf index = true ∨ namesAt tokens .openElse index = true)
    (entry : entryAt? tokens index = some (.openBranch kind condition))
    (inSection : currentSection? tokens index ≠ none)
    (isOpen : innermost? tokens (index + 1) = some index)
    (grown : .ofEntries true rest = layoutFrom tokens (index + 1)) :
    .ofEntries inBranch (.openBranch kind condition :: rest) = layoutFrom tokens index := by
  obtain ⟨heading, current⟩ := Option.ne_none_iff_exists'.mp inSection
  have lives := home?_of_branch named (of_currentSection?_eq_some current).1
  have stays : Lacks tokens Keyword.isPlace index :=
    named.elim (lacks_of_names · rfl) (lacks_of_names · rfl)
  have body_eq : (layoutFrom tokens (index + 1)).body =
      (residents tokens (.body index)).filterMap (leafAt? tokens) := by
    simp only [layoutFrom, isOpen]
    exact keptFrom_of_opened fun _ lives => (of_innermost?_eq_some (openAt_of_home? lives)).1
  simp only [Growth.ofEntries, grown]
  refine Growth.ext ?body ?elements ?links ?sections ?chapters
  case body =>
    refine (keptFrom_eq_nil fun opening isOpen later after => ?_).symm
    exact body_closed isOpen (named.imp_right .inl) after
  case elements =>
    rw [body_eq]
    exact (layoutFrom_elements_of_here below stays current lives (elementAt?_of_branch entry)).symm
  case links => exact (layoutFrom_links_succ stays (by simp [lives])).symm
  case sections => exact (layoutFrom_sections_succ (stays .openChapter rfl) (by simp [lives])).symm
  case chapters => exact (layoutFrom_chapters_succ (by simp [lives])).symm

/-- Behind the end of a branch, nothing goes to its body. -/
theorem layoutFrom_of_closeIf {inBranch : Bool} (named : namesAt tokens .closeIf index = true)
    (grown : .ofEntries false rest = layoutFrom tokens (index + 1)) :
    .ofEntries inBranch (.closeBranch :: rest) = layoutFrom tokens index := by
  have lives : home? tokens index = none := home?_of_names named
  have stays : Lacks tokens Keyword.isPlace index := lacks_of_names named rfl
  simp only [Growth.ofEntries, grown]
  refine Growth.ext ?body ?elements ?links ?sections ?chapters
  case body =>
    refine (keptFrom_eq_nil fun opening isOpen later after => ?_).symm
    exact body_closed isOpen (.inr (.inr named)) after
  case elements => exact (layoutFrom_elements_succ stays (by simp [lives])).symm
  case links => exact (layoutFrom_links_succ stays (by simp [lives])).symm
  case sections => exact (layoutFrom_sections_succ (stays .openChapter rfl) (by simp [lives])).symm
  case chapters => exact (layoutFrom_chapters_succ (by simp [lives])).symm

theorem innermost?_isSome :
    (innermost? tokens index).isSome = (openIf? tokens index).isSome := by
  cases opened : openIf? tokens index with
  | none => simp [innermost?_eq_none_iff.mpr opened]
  | some opening => simp [innermost?, opened]

/-- The layout grows by what the token adds. -/
theorem Adds.growth_eq (adds : Adds tokens index) (below : index < tokens.length)
    (grown : .ofEntries (openIf? tokens (index + 1)).isSome rest =
      layoutFrom tokens (index + 1)) :
    .ofEntries (openIf? tokens index).isSome ((entryAt? tokens index).toList ++ rest) =
      layoutFrom tokens index := by
  cases adds with
  | leaf isLeaf entry inside =>
    rw [openIf?_succ (isLeaf.lacks rfl rfl)] at grown
    rw [entry, ← innermost?_isSome]
    rw [← innermost?_isSome] at grown
    cases isOpen : innermost? tokens index with
    | none =>
      rw [isOpen] at grown
      have inSection := inside.resolve_left (not_not_intro (innermost?_eq_none_iff.mp isOpen))
      exact layoutFrom_of_outer below isLeaf entry isOpen inSection grown
    | some opening =>
      rw [isOpen] at grown
      exact layoutFrom_of_inner below isLeaf entry isOpen grown
  | link named entry inSection =>
    rw [openIf?_succ (lacks_of_link named rfl rfl)] at grown
    rw [entry]
    exact layoutFrom_of_link below named entry inSection grown
  | openIf named entry closed inSection =>
    have opened := openIf?_succ_of_openIf named
    have isOpen : innermost? tokens (index + 1) = some index := by
      rw [innermost?, openElse?_succ_of_openIf named, opened, Option.none_or]
    rw [opened] at grown
    rw [entry]
    exact layoutFrom_of_openBranch below (.inl named) entry inSection isOpen grown
  | openElse named entry opened inSection =>
    obtain ⟨opening, opened⟩ := Option.ne_none_iff_exists'.mp opened
    have isOpen : innermost? tokens (index + 1) = some index := by
      rw [innermost?, openElse?_succ_of_openElse named, opened]
      rfl
    rw [openIf?_succ_of_openElse named, opened] at grown
    rw [entry]
    exact layoutFrom_of_openBranch below (.inr named) entry inSection isOpen grown
  | closeIf named entry isOpen =>
    rw [openIf?_succ_of_closeIf named] at grown
    rw [entry]
    exact layoutFrom_of_closeIf named grown

/-! ### A heading and its title -/

theorem layoutFrom_of_nothing (steady : Lacks tokens Keyword.isBranching index)
    (stays : Lacks tokens Keyword.isPlace index) (nothing : home? tokens index = none) :
    layoutFrom tokens index = layoutFrom tokens (index + 1) := by
  refine Growth.ext ?body ?elements ?links ?sections ?chapters
  case body => exact layoutFrom_body_succ steady (by simp [nothing])
  case elements => exact layoutFrom_elements_succ stays (by simp [nothing])
  case links => exact layoutFrom_links_succ stays (by simp [nothing])
  case sections => exact layoutFrom_sections_succ (stays .openChapter rfl) (by simp [nothing])
  case chapters => exact layoutFrom_chapters_succ (by simp [nothing])

/-- A chapter comes first in the book, and its sections are what follows in it. -/
theorem layoutFrom_of_chapter {mode : Mode} {id : String} {inBranch : Bool}
    (goes : GoesOn mode tokens index) (below : index < tokens.length)
    (named : namesAt tokens .openChapter index = true)
    (entry : entryAt? tokens index = some (.newChapter id title.text))
    (grown : .ofEntries inBranch rest = layoutFrom tokens (index + 1)) :
    .ofEntries inBranch (.newChapter id title.text :: rest) = layoutFrom tokens index := by
  have lives : home? tokens index = some .chapters := home?_of_names named
  have sections_eq : (layoutFrom tokens (index + 1)).sections =
      (residents tokens (.sections index)).filterMap (sectionAt? tokens) := by
    simp only [layoutFrom, lastBefore?_succ_of_names named]
    exact keptFrom_of_opened fun _ lives => lt_of_lastBefore? (openAt_of_home? lives)
  have closed {heading later : Nat} (current : currentSection? tokens index = some heading)
      (after : index ≤ later) := goes.section_closed named
        (lt_of_lastBefore? (of_currentSection?_eq_some current).1) after
  simp only [Growth.ofEntries, grown]
  refine Growth.ext ?body ?elements ?links ?sections ?chapters
  case body => exact (layoutFrom_body_succ (lacks_of_names named rfl) (by simp [lives])).symm
  case elements =>
    exact (keptFrom_eq_nil fun heading current later after => (closed current after).1).symm
  case links =>
    exact (keptFrom_eq_nil fun heading current later after => (closed current after).2).symm
  case sections =>
    refine (keptFrom_eq_nil fun heading begun later after => ?_).symm
    exact chapter_closed named (lt_of_lastBefore? begun) after
  case chapters =>
    rw [sections_eq]
    simp only [layoutFrom, residentsFrom_of_here below lives, List.filterMap_cons,
      chapterAt?_of_entry entry]

/-- A section comes first in the chapter, and it has what follows in it. -/
theorem layoutFrom_of_section {id : String} {inBranch : Bool} (below : index < tokens.length)
    (named : namesAt tokens .openSection index = true) {chapter : Nat}
    (begun : lastBefore? tokens .openChapter index = some chapter)
    (entry : entryAt? tokens index = some (.newSection id title.text))
    (grown : .ofEntries inBranch rest = layoutFrom tokens (index + 1)) :
    .ofEntries inBranch (.newSection id title.text :: rest) = layoutFrom tokens index := by
  have lives : home? tokens index = some (.sections chapter) := by
    rw [home?_of_names named, commandHome?, begun, Option.map_some]
  have current := currentSection?_succ_of_openSection named
  have elements_eq : (layoutFrom tokens (index + 1)).elements =
      (residents tokens (.elements index)).filterMap (elementAt? tokens) := by
    simp only [layoutFrom, current]
    exact keptFrom_of_opened fun _ lives => lt_of_lastBefore? (openAt_of_home? lives)
  have links_eq : (layoutFrom tokens (index + 1)).links =
      (residents tokens (.links index)).filterMap (linkAt? tokens) := by
    simp only [layoutFrom, current]
    exact keptFrom_of_opened fun _ lives => lt_of_lastBefore? (openAt_of_home? lives)
  have closed {heading later : Nat} (current : currentSection? tokens index = some heading)
      (after : index ≤ later) := section_closed named
        (lt_of_lastBefore? (of_currentSection?_eq_some current).1) after
  have noChapter := namesAt_unique .openChapter named (by decide)
  simp only [Growth.ofEntries, grown]
  refine Growth.ext ?body ?elements ?links ?sections ?chapters
  case body => exact (layoutFrom_body_succ (lacks_of_names named rfl) (by simp [lives])).symm
  case elements =>
    exact (keptFrom_eq_nil fun heading current later after => (closed current after).1).symm
  case links =>
    exact (keptFrom_eq_nil fun heading current later after => (closed current after).2).symm
  case sections =>
    rw [elements_eq, links_eq]
    simp only [layoutFrom, lastBefore?_succ_of_not noChapter, begun]
    exact (keptFrom_of_here below lives (sectionAt?_of_entry entry)).symm
  case chapters => exact (layoutFrom_chapters_succ (by simp [lives])).symm

end Step

/-! ## From an index to the end -/

section Run

variable {mode : Mode} {tokens : List Token} {index later : Nat} {token : Token} {book : Book}

theorem layoutFrom_length : layoutFrom tokens tokens.length = .none := by
  have apart (home : Home) (later : Nat) (beyond : tokens.length ≤ later) :
      home? tokens later ≠ some home := by
    simp [home?_of_beyond beyond]
  refine Growth.ext ?body ?elements ?links ?sections ?chapters
  case body => exact keptFrom_eq_nil fun _ _ => apart _
  case elements => exact keptFrom_eq_nil fun _ _ => apart _
  case links => exact keptFrom_eq_nil fun _ _ => apart _
  case sections => exact keptFrom_eq_nil fun _ _ => apart _
  case chapters =>
    simp only [layoutFrom, residentsFrom_eq_nil (apart .chapters)]
    rfl

/-- Where a script goes on, the entries add what has its home there. -/
theorem GoesOn.growth_eq (goes : GoesOn mode tokens index) :
    .ofEntries (openIf? tokens index).isSome (entriesFrom tokens index) =
      layoutFrom tokens index := by
  induction goes with
  | done =>
    rw [layoutFrom_length, entriesFrom, Nat.sub_self]
    rfl
  | token found moves later ih =>
    have below := (List.getElem?_eq_some_iff.mp found).1
    rw [entriesFrom_of_found found]
    exact (moves.adds found).growth_eq below ih
  | @heading index opening title heading found opens moves titled isParagraph later ih =>
    have below := (List.getElem?_eq_some_iff.mp found).1
    have untitled {kinds : Keyword → Bool} : Lacks tokens kinds (index + 1) :=
      lacks_of_paragraph titled isParagraph
    have nothing := home?_of_title titled isParagraph (isTitle_succ_of_opens found opens)
    obtain ⟨fields, reads⟩ := opens.reads
    have named : namesAt tokens heading.keyword index = true := namesAt_of_reads_self found reads
    have sameIf : openIf? tokens (index + 2) = openIf? tokens index := by
      rw [openIf?_succ untitled, openIf?_succ (lacks_of_names named heading.isBranching_keyword)]
    rw [sameIf, ← layoutFrom_of_nothing untitled untitled nothing] at ih
    rw [entriesFrom_of_heading found opens titled isParagraph]
    have whole := ledgerAt_after_title found opens titled isParagraph
    cases heading with
    | ofBook =>
      have entry : entryAt? tokens index = none := (congrArg Prod.snd whole).symm
      rw [entry, layoutFrom_of_nothing (lacks_of_names named rfl) (lacks_of_names named rfl)
        (home?_of_names named)]
      exact ih
    | ofChapter id =>
      have entry : entryAt? tokens index = some (.newChapter id title.text) :=
        (congrArg Prod.snd whole).symm
      have goes : GoesOn mode tokens index := .heading found opens moves titled isParagraph later
      rw [entry]
      exact layoutFrom_of_chapter goes below named entry ih
    | ofSection id =>
      have entry : entryAt? tokens index = some (.newSection id title.text) :=
        (congrArg Prod.snd whole).symm
      obtain ⟨chapter, begun⟩ := exists_chapter (moves.inChapter (namesAt_of_found found _ ▸ named))
      rw [entry]
      exact layoutFrom_of_section below named begun entry ih

/-! ### Homes in the book -/

variable (goes : GoesOn mode tokens 0)
  (chapters_eq : book.chapters = (residents tokens .chapters).filterMap (chapterAt? tokens))

include goes chapters_eq

/-- Every section is in the book. -/
theorem GoesOn.exists_part (named : namesAt tokens .openSection index = true) :
    ∃ chapter part, chapter ∈ book.chapters ∧ part ∈ chapter.sections ∧
      sectionAt? tokens index = some part := by
  obtain ⟨heading, begun⟩ := goes.begun named
  have begins := (of_lastBefore?_eq_some begun).2.1
  have lives : home? tokens index = some (.sections heading) := by
    rw [home?_of_names named, commandHome?, begun, Option.map_some]
  have lives' : home? tokens heading = some .chapters := home?_of_names begins
  obtain ⟨part, made⟩ := goes.gets lives
  obtain ⟨chapter, made'⟩ := goes.gets lives'
  refine ⟨chapter, part, ?_, ?_, made⟩
  · rw [chapters_eq, List.mem_filterMap]
    exact ⟨heading, mem_residents_iff.mpr ⟨lt_length_of_namesAt begins, lives'⟩, made'⟩
  · rw [sections_of_chapterAt? made', List.mem_filterMap]
    exact ⟨index, mem_residents_iff.mpr ⟨lt_length_of_namesAt named, lives⟩, made⟩

/-- The lists of the current section are in the book. -/
theorem GoesOn.stands_of_current (inSection : currentSection? tokens index ≠ none) :
    ∃ heading, lastBefore? tokens .openSection index = some heading ∧
      Stands tokens book (.elements heading) ∧ Stands tokens book (.links heading) := by
  obtain ⟨heading, current⟩ := Option.ne_none_iff_exists'.mp inSection
  have last := (of_currentSection?_eq_some current).1
  obtain ⟨chapter, part, ofBook, ofChapter, made⟩ :=
    goes.exists_part chapters_eq (of_lastBefore?_eq_some last).2.1
  exact ⟨heading, last, .elements ofBook ofChapter made, .links ofBook ofChapter made⟩

theorem GoesOn.branch_stands
    (named : namesAt tokens .openIf index = true ∨ namesAt tokens .openElse index = true) :
    ∃ heading, lastBefore? tokens .openSection index = some heading ∧
      home? tokens index = some (.elements heading) ∧ Stands tokens book (.elements heading) := by
  have inSection : currentSection? tokens index ≠ none :=
    named.elim (goes.inSection · rfl rfl) (goes.inSection · rfl rfl)
  obtain ⟨heading, last, stands, -⟩ := goes.stands_of_current chapters_eq inSection
  exact ⟨heading, last, home?_of_branch named last, stands⟩

theorem GoesOn.link_stands
    (named : namesAt tokens .next index = true ∨ namesAt tokens .jump index = true) :
    ∃ heading, lastBefore? tokens .openSection index = some heading ∧
      home? tokens index = some (.links heading) ∧ Stands tokens book (.links heading) := by
  have inSection : currentSection? tokens index ≠ none :=
    named.elim (goes.inSection · rfl rfl) (goes.inSection · rfl rfl)
  obtain ⟨heading, last, -, stands⟩ := goes.stands_of_current chapters_eq inSection
  exact ⟨heading, last, home?_of_link named last, stands⟩

/-- An open body is in the book. -/
theorem GoesOn.stands_of_innermost {opening : Nat}
    (isOpen : innermost? tokens index = some opening) : Stands tokens book (.body opening) := by
  have named := innermost?_names isOpen
  have below : opening < tokens.length := named.elim lt_length_of_namesAt lt_length_of_namesAt
  obtain ⟨heading, -, lives, stands⟩ := goes.branch_stands chapters_eq named
  obtain ⟨element, made⟩ := goes.gets lives
  cases stands with
  | elements ofBook ofChapter made' =>
    refine .body ofBook ofChapter ?_ made
    rw [elements_of_sectionAt? made', List.mem_filterMap]
    exact ⟨opening, mem_residents_iff.mpr ⟨below, lives⟩, made⟩

theorem GoesOn.leaf_stands (isLeaf : IsLeaf tokens index) :
    ∃ home, leafHome? tokens index = some home ∧ home? tokens index = some home ∧
      Stands tokens book home := by
  have same := home?_of_isLeaf isLeaf
  cases isOpen : innermost? tokens index with
  | some opening =>
    have lives : leafHome? tokens index = some (.body opening) := by rw [leafHome?, isOpen]
    exact ⟨_, lives, same.trans lives, goes.stands_of_innermost chapters_eq isOpen⟩
  | none =>
    have outside := not_not_intro (innermost?_eq_none_iff.mp isOpen)
    have inSection := (goes.adds_of_isLeaf isLeaf).inside.resolve_left outside
    obtain ⟨heading, last, stands, -⟩ := goes.stands_of_current chapters_eq inSection
    have lives : leafHome? tokens index = some (.elements heading) := by
      rw [leafHome?, isOpen, last]
      rfl
    exact ⟨_, lives, same.trans lives, stands⟩

omit goes chapters_eq

/-- The book of a parse has each item of the tokens in its home, and nothing else. -/
theorem laidOut_of_parse (parsed : (parse mode tokens).result = .ok book) :
    LaidOut tokens book := by
  rw [parse_eq_ledger_parse, ledger_parse_eq_ok_iff_goesOn] at parsed
  obtain ⟨goes, -, title, -, rfl⟩ := parsed
  have chapters_eq : (bookOfEntries title (entriesFrom tokens 0)).chapters =
      (residents tokens .chapters).filterMap (chapterAt? tokens) := by
    rw [residents_eq_residentsFrom_zero]
    exact congrArg Growth.chapters goes.growth_eq
  exact {
    chapters_eq
    kept := fun index home lives => goes.gets lives
    leaf := fun index isLeaf => goes.leaf_stands chapters_eq isLeaf
    branch := fun index named => goes.branch_stands chapters_eq named
    link := fun index named => goes.link_stands chapters_eq named }

end Run

/-- A script with a branch that spans two sections and is turned in the second. -/
def turnedScript : List Token :=
  [.directive "book" 1, .paragraph "T" 2, .directive "chapter c" 3, .paragraph "C" 4,
    .directive "section s" 5, .paragraph "S" 6, .directive "if x" 7, .directive "section t" 8,
    .paragraph "U" 9, .paragraph "Still inside" 10, .directive "else" 11,
    .paragraph "Otherwise" 12, .directive "endif" 13, .paragraph "Outside" 14]

/-- The text in the second section goes to the branch in the first one, and the
alternative goes to the second section. -/
theorem laidOut_turnedScript :
    ∃ book, (parse .lenient turnedScript).result = .ok book ∧ LaidOut turnedScript book ∧
      residents turnedScript (.body 6) = [9] ∧ residents turnedScript (.body 10) = [11] ∧
      residents turnedScript (.elements 4) = [6] ∧
      residents turnedScript (.elements 7) = [10, 13] := by
  have parsed : ∃ book, (parse .lenient turnedScript).result = .ok book := ⟨_, rfl⟩
  obtain ⟨book, parsed⟩ := parsed
  exact ⟨book, parsed, laidOut_of_parse parsed, rfl, rfl, rfl, rfl⟩

end Gamebook.Script
