import Gamebook.Proofs.History

/-!
# Where everything goes

Each item of a script has a *home*, a list in the book that it goes to, and the
home follows from the directives before it.

* Text, a change of state, or an item gained or lost goes to the body of the open
  branch: that of the last `else` after the `if` or else of the `if` itself.  If no
  branch is open, it goes to the elements of the last section.
* A branch goes to the elements of the last section, and a link to its links.
* A section goes to the last chapter, and a chapter to the book.

`LaidOut` says that a book has in each of its lists the items that have their home
there, in the order of the tokens, and that every item has a home in the book.
`Proofs/Layout` shows that the book of a parse is laid out so.
-/

namespace Gamebook.Script

open Gamebook.Story

/-! ## Homes -/

/-- A list of the book.  It belongs to the directive at an index. -/
inductive Home where
  /-- The body of a branch. -/
  | body (opening : Nat)
  /-- The elements of a section. -/
  | elements (heading : Nat)
  /-- The links of a section. -/
  | links (heading : Nat)
  /-- The sections of a chapter. -/
  | sections (heading : Nat)
  /-- The chapters of the book. -/
  | chapters
  deriving DecidableEq, Repr

/-- The `if` or `else` whose body is open at an index. -/
def innermost? (tokens : List Token) (index : Nat) : Option Nat :=
  (openElse? tokens index).or (openIf? tokens index)

/-- The home of an element without a body. -/
def leafHome? (tokens : List Token) (index : Nat) : Option Home :=
  match innermost? tokens index with
  | some opening => some (.body opening)
  | none => (lastBefore? tokens .openSection index).map .elements

/-- The home of what a directive with this keyword adds. -/
def commandHome? (tokens : List Token) (index : Nat) : Keyword → Option Home
  | .openChapter => some .chapters
  | .openSection => (lastBefore? tokens .openChapter index).map .sections
  | .openIf | .openElse => (lastBefore? tokens .openSection index).map .elements
  | .next | .jump => (lastBefore? tokens .openSection index).map .links
  | .state | .item => leafHome? tokens index
  | .openBook | .closeIf => none

/-- The home of what the token at this index adds. -/
def home? (tokens : List Token) (index : Nat) : Option Home :=
  tokens[index]?.bind fun token =>
    match token.kind with
    | .paragraph => if isTitle tokens index then none else leafHome? tokens index
    | .directive => token.reading.keyword?.bind (commandHome? tokens index)

/-- The indices of the tokens that have their home in this list, in order. -/
def residents (tokens : List Token) (home : Home) : List Nat :=
  (List.range tokens.length).filter (home? tokens · = some home)

/-! ## Items -/

/-- The element without a body that the token adds. -/
def leafAt? (tokens : List Token) (index : Nat) : Option Leaf :=
  match entryAt? tokens index with
  | some (.leaf leaf) => some leaf
  | _ => none

/-- The link that the token adds. -/
def linkAt? (tokens : List Token) (index : Nat) : Option Link :=
  match entryAt? tokens index with
  | some (.link link) => some link
  | _ => none

/-- The element that the token adds.  The body of a branch has what has its home
there. -/
def elementAt? (tokens : List Token) (index : Nat) : Option Element :=
  match entryAt? tokens index with
  | some (.leaf leaf) => some (.leaf leaf)
  | some (.openBranch kind condition) =>
    let leaves := (residents tokens (.body index)).filterMap (leafAt? tokens)
    some (.branch kind condition (leaves.map .leaf))
  | _ => none

/-- The section that the token adds, with what has its home there. -/
def sectionAt? (tokens : List Token) (index : Nat) : Option Section :=
  match entryAt? tokens index with
  | some (.newSection id title) =>
    some ⟨id, title, (residents tokens (.elements index)).filterMap (elementAt? tokens),
      (residents tokens (.links index)).filterMap (linkAt? tokens)⟩
  | _ => none

/-- The chapter that the token adds, with what has its home there. -/
def chapterAt? (tokens : List Token) (index : Nat) : Option Chapter :=
  match entryAt? tokens index with
  | some (.newChapter id title) =>
    some ⟨id, title, (residents tokens (.sections index)).filterMap (sectionAt? tokens)⟩
  | _ => none

section Items

variable {tokens : List Token} {index : Nat}

/-- A token that adds a leaf is that leaf. -/
theorem leafAt?_of_entry {leaf : Leaf} (entry : entryAt? tokens index = some (.leaf leaf)) :
    leafAt? tokens index = some leaf := by
  rw [leafAt?, entry]

theorem linkAt?_of_entry {link : Link} (entry : entryAt? tokens index = some (.link link)) :
    linkAt? tokens index = some link := by
  rw [linkAt?, entry]

theorem elementAt?_of_leaf {leaf : Leaf} (entry : entryAt? tokens index = some (.leaf leaf)) :
    elementAt? tokens index = some (.leaf leaf) := by
  rw [elementAt?, entry]

/-- A token that opens a branch is the branch with the leaves that live in it. -/
theorem elementAt?_of_branch {kind : BranchKind} {condition : String}
    (entry : entryAt? tokens index = some (.openBranch kind condition)) :
    elementAt? tokens index = some (.branch kind condition
      (((residents tokens (.body index)).filterMap (leafAt? tokens)).map .leaf)) := by
  rw [elementAt?, entry]

/-- A heading is the section with the elements and links that live in it. -/
theorem sectionAt?_of_entry {id title : String}
    (entry : entryAt? tokens index = some (.newSection id title)) :
    sectionAt? tokens index = some
      ⟨id, title, (residents tokens (.elements index)).filterMap (elementAt? tokens),
        (residents tokens (.links index)).filterMap (linkAt? tokens)⟩ := by
  rw [sectionAt?, entry]

/-- A heading is the chapter with the sections that live in it. -/
theorem chapterAt?_of_entry {id title : String}
    (entry : entryAt? tokens index = some (.newChapter id title)) :
    chapterAt? tokens index = some
      ⟨id, title, (residents tokens (.sections index)).filterMap (sectionAt? tokens)⟩ := by
  rw [chapterAt?, entry]

/-- The sections of a chapter are those that have their home in it. -/
theorem sections_of_chapterAt? {chapter : Chapter}
    (made : chapterAt? tokens index = some chapter) :
    chapter.sections = (residents tokens (.sections index)).filterMap (sectionAt? tokens) := by
  unfold chapterAt? at made
  split at made
  · cases made
    rfl
  · cases made

theorem elements_of_sectionAt? {part : Section} (made : sectionAt? tokens index = some part) :
    part.elements = (residents tokens (.elements index)).filterMap (elementAt? tokens) := by
  unfold sectionAt? at made
  split at made
  · cases made
    rfl
  · cases made

end Items

/-- The token adds an item of the kind that the list holds. -/
def Home.Gets (tokens : List Token) (index : Nat) : Home → Prop
  | .body _ => ∃ leaf, leafAt? tokens index = some leaf
  | .elements _ => ∃ element, elementAt? tokens index = some element
  | .links _ => ∃ link, linkAt? tokens index = some link
  | .sections _ => ∃ part, sectionAt? tokens index = some part
  | .chapters => ∃ chapter, chapterAt? tokens index = some chapter

/-! ## Books -/

/-- The list is in the book. -/
inductive Stands (tokens : List Token) (book : Book) : Home → Prop where
  /-- The body of a branch in the elements of a section. -/
  | body {opening : Nat} {chapter : Chapter} {part : Section} {element : Element}
      (ofBook : chapter ∈ book.chapters) (ofChapter : part ∈ chapter.sections)
      (ofSection : element ∈ part.elements) (made : elementAt? tokens opening = some element) :
      Stands tokens book (.body opening)
  /-- The elements of a section. -/
  | elements {heading : Nat} {chapter : Chapter} {part : Section}
      (ofBook : chapter ∈ book.chapters) (ofChapter : part ∈ chapter.sections)
      (made : sectionAt? tokens heading = some part) : Stands tokens book (.elements heading)
  /-- The links of a section. -/
  | links {heading : Nat} {chapter : Chapter} {part : Section}
      (ofBook : chapter ∈ book.chapters) (ofChapter : part ∈ chapter.sections)
      (made : sectionAt? tokens heading = some part) : Stands tokens book (.links heading)

/-- The token at this index is an element without a body: text that is no title, a
change of state, or an item gained or lost. -/
def IsLeaf (tokens : List Token) (index : Nat) : Prop :=
  namesAt tokens .state index = true ∨ namesAt tokens .item index = true ∨
    ∃ token, tokens[index]? = some token ∧ token.kind = .paragraph ∧ isTitle tokens index = false

/-- The book has each item of the tokens in its home. -/
structure LaidOut (tokens : List Token) (book : Book) : Prop where
  /-- The lists of the book have what has its home there, in order. -/
  chapters_eq : book.chapters = (residents tokens .chapters).filterMap (chapterAt? tokens)
  /-- What has its home in a list is one item of it. -/
  kept : ∀ index home, home? tokens index = some home → home.Gets tokens index
  /-- An element without a body has its home in the book. -/
  leaf : ∀ index, IsLeaf tokens index → ∃ home, leafHome? tokens index = some home ∧
    home? tokens index = some home ∧ Stands tokens book home
  /-- A branch has its home in the elements of the last section. -/
  branch : ∀ index, namesAt tokens .openIf index = true ∨ namesAt tokens .openElse index = true →
    ∃ heading, lastBefore? tokens .openSection index = some heading ∧
      home? tokens index = some (.elements heading) ∧ Stands tokens book (.elements heading)
  /-- A link has its home in the links of the last section. -/
  link : ∀ index, namesAt tokens .next index = true ∨ namesAt tokens .jump index = true →
    ∃ heading, lastBefore? tokens .openSection index = some heading ∧
      home? tokens index = some (.links heading) ∧ Stands tokens book (.links heading)

/-! ## Which homes are open -/

section Homes

variable {tokens : List Token} {index opening heading : Nat} {token : Token} {keyword : Keyword}
  {fields : List String} {home : Home}

/-- The home of a directive is told by its keyword. -/
theorem home?_of_reads (found : tokens[index]? = some token) (reads : token.Reads keyword fields) :
    home? tokens index = commandHome? tokens index keyword := by
  simp only [home?, found, Option.bind_some, reads.isDirective, reads.keyword_eq]

theorem home?_of_names (named : namesAt tokens keyword index = true) :
    home? tokens index = commandHome? tokens index keyword := by
  cases found : tokens[index]? with
  | none => simp [namesAt, found] at named
  | some token =>
    simp only [namesAt, found, Option.any_some, Token.names, Bool.and_eq_true,
      decide_eq_true_eq] at named
    exact home?_of_reads found ⟨named.1, named.2, rfl⟩

/-- A leaf lives in the innermost branch that is open, or in the section. -/
theorem home?_of_isLeaf (isLeaf : IsLeaf tokens index) :
    home? tokens index = leafHome? tokens index := by
  rcases isLeaf with named | named | ⟨token, found, isParagraph, untitled⟩
  · exact home?_of_names named
  · exact home?_of_names named
  · simp [home?, found, isParagraph, untitled]

/-- A branch lives among the elements of the last section before it. -/
theorem home?_of_branch
    (named : namesAt tokens .openIf index = true ∨ namesAt tokens .openElse index = true)
    (last : lastBefore? tokens .openSection index = some heading) :
    home? tokens index = some (.elements heading) := by
  have last := congrArg (Option.map Home.elements) last
  exact named.elim (fun named => (home?_of_names named).trans last)
    fun named => (home?_of_names named).trans last

/-- A link lives among the links of the last section before it. -/
theorem home?_of_link
    (named : namesAt tokens .next index = true ∨ namesAt tokens .jump index = true)
    (last : lastBefore? tokens .openSection index = some heading) :
    home? tokens index = some (.links heading) := by
  have last := congrArg (Option.map Home.links) last
  exact named.elim (fun named => (home?_of_names named).trans last)
    fun named => (home?_of_names named).trans last

theorem IsLeaf.lacks {kinds : Keyword → Bool} (isLeaf : IsLeaf tokens index)
    (notState : kinds .state = false) (notItem : kinds .item = false) :
    Lacks tokens kinds index := by
  rcases isLeaf with named | named | ⟨token, found, isParagraph, -⟩
  · exact lacks_of_names named notState
  · exact lacks_of_names named notItem
  · exact lacks_of_paragraph found isParagraph

theorem lacks_of_link {kinds : Keyword → Bool}
    (named : namesAt tokens .next index = true ∨ namesAt tokens .jump index = true)
    (notNext : kinds .next = false) (notJump : kinds .jump = false) : Lacks tokens kinds index :=
  named.elim (lacks_of_names · notNext) (lacks_of_names · notJump)

/-- A title has no home. -/
theorem home?_of_title (found : tokens[index]? = some token) (isParagraph : token.kind = .paragraph)
    (titled : isTitle tokens index = true) : home? tokens index = none := by
  simp [home?, found, isParagraph, titled]

/-- Behind the end of the script nothing has a home. -/
theorem home?_of_beyond (beyond : tokens.length ≤ index) : home? tokens index = none := by
  simp [home?, List.getElem?_eq_none_iff.mpr beyond]

theorem lastBefore?_of_openElse? {turning : Nat} (turned : openElse? tokens index = some turning) :
    lastBefore? tokens .openElse index = some turning := by
  obtain ⟨opening, -, found⟩ := Option.bind_eq_some_iff.mp turned
  exact Option.eq_some_of_filter_eq_some found

/-- Between the directive that opens the innermost body and an index, no branch is
opened, continued or closed. -/
theorem of_innermost?_eq_some (isOpen : innermost? tokens index = some opening) :
    opening < index ∧ ∀ between, opening < between → between < index →
      namesAt tokens .openIf between = false ∧ namesAt tokens .openElse between = false ∧
        namesAt tokens .closeIf between = false := by
  cases turned : openElse? tokens index with
  | none =>
    have opened : openIf? tokens index = some opening := by
      simpa [innermost?, turned] using isOpen
    obtain ⟨below, -, unclosed⟩ := of_openIf?_eq_some opened
    obtain ⟨-, -, unopened⟩ := of_lastBefore?_eq_some (Option.eq_some_of_filter_eq_some opened)
    refine ⟨below, fun between after before =>
      ⟨unopened between after before, ?_, unclosed between after before⟩⟩
    -- An `else` in between would be the alternative.
    cases turns : namesAt tokens .openElse between with
    | false => rfl
    | true =>
      have turned' := openElse?_isSome opened turns after before
      simp [turned] at turned'
  | some turning =>
    obtain rfl : turning = opening := by simpa [innermost?, turned] using isOpen
    obtain ⟨opening, opened, after, below, -⟩ := of_openElse?_eq_some turned
    obtain ⟨-, -, unclosed⟩ := of_openIf?_eq_some opened
    obtain ⟨-, -, unopened⟩ := of_lastBefore?_eq_some (Option.eq_some_of_filter_eq_some opened)
    obtain ⟨-, -, unturned⟩ := of_lastBefore?_eq_some (lastBefore?_of_openElse? turned)
    exact ⟨below, fun between behind before =>
      ⟨unopened between (by omega) before, unturned between behind before,
        unclosed between (by omega) before⟩⟩

/-- The innermost branch is that of an `if` or of an `else`. -/
theorem innermost?_names (isOpen : innermost? tokens index = some opening) :
    namesAt tokens .openIf opening = true ∨ namesAt tokens .openElse opening = true := by
  rcases Option.or_eq_some_iff.mp isOpen with turned | ⟨-, opened⟩
  · obtain ⟨_, -, -, -, turns⟩ := of_openElse?_eq_some turned
    exact .inr turns
  · exact .inl (of_openIf?_eq_some opened).2.1

/-- There is an innermost branch exactly when an `if` is open. -/
theorem innermost?_eq_none_iff :
    innermost? tokens index = none ↔ openIf? tokens index = none := by
  cases opened : openIf? tokens index with
  | none => simp [innermost?, openElse?, opened]
  | some opening => simp [innermost?, opened]

/-- The list is open at an index. -/
def Home.OpenAt (tokens : List Token) (index : Nat) : Home → Prop
  | .body opening => innermost? tokens index = some opening
  | .elements heading | .links heading => lastBefore? tokens .openSection index = some heading
  | .sections heading => lastBefore? tokens .openChapter index = some heading
  | .chapters => True

/-- The home of a leaf is open where the leaf stands. -/
theorem openAt_of_leafHome? (lives : leafHome? tokens index = some home) :
    home.OpenAt tokens index := by
  cases isOpen : innermost? tokens index with
  | some opening =>
    obtain rfl : .body opening = home := by simpa [leafHome?, isOpen] using lives
    exact isOpen
  | none =>
    obtain ⟨heading, current, rfl⟩ : ∃ heading,
        lastBefore? tokens .openSection index = some heading ∧ .elements heading = home := by
      simpa [leafHome?, isOpen] using lives
    exact current

/-- Everything goes to a list that is open. -/
theorem openAt_of_home? (lives : home? tokens index = some home) : home.OpenAt tokens index := by
  obtain ⟨token, found, lives⟩ := Option.bind_eq_some_iff.mp lives
  cases kind : token.kind with
  | paragraph =>
    simp only [kind] at lives
    cases titled : isTitle tokens index with
    | true => simp [titled] at lives
    | false =>
      rw [titled] at lives
      exact openAt_of_leafHome? lives
  | directive =>
    simp only [kind] at lives
    obtain ⟨keyword, known, lives⟩ := Option.bind_eq_some_iff.mp lives
    cases keyword with
    | state => exact openAt_of_leafHome? lives
    | item => exact openAt_of_leafHome? lives
    | openChapter =>
      cases lives
      trivial
    | openBook => cases lives
    | closeIf => cases lives
    | _ =>
      obtain ⟨heading, current, rfl⟩ := Option.map_eq_some_iff.mp lives
      exact current

end Homes

/-! ## Residents from an index on -/

/-- The residents of a list from an index on. -/
def residentsFrom (tokens : List Token) (index : Nat) (home : Home) : List Nat :=
  (List.range' index (tokens.length - index)).filter (home? tokens · = some home)

section Residents

variable {tokens : List Token} {index : Nat} {home : Home}

theorem residents_eq_residentsFrom_zero : residents tokens home = residentsFrom tokens 0 home := by
  rw [residents, residentsFrom, List.range_eq_range', Nat.sub_zero]

/-- A token that lives there is the first of those from its index on. -/
theorem residentsFrom_of_here (below : index < tokens.length)
    (lives : home? tokens index = some home) :
    residentsFrom tokens index home = index :: residentsFrom tokens (index + 1) home := by
  have size : tokens.length - index = (tokens.length - (index + 1)) + 1 := by omega
  rw [residentsFrom, size, List.range'_succ, List.filter_cons_of_pos (by simp [lives])]
  rfl

/-- A token that lives elsewhere is passed over. -/
theorem residentsFrom_of_elsewhere (apart : home? tokens index ≠ some home) :
    residentsFrom tokens index home = residentsFrom tokens (index + 1) home := by
  rcases Nat.lt_or_ge index tokens.length with below | beyond
  · have size : tokens.length - index = (tokens.length - (index + 1)) + 1 := by omega
    rw [residentsFrom, size, List.range'_succ, List.filter_cons_of_neg (by simp [apart])]
    rfl
  · have size : tokens.length - index = 0 := by omega
    have size' : tokens.length - (index + 1) = 0 := by omega
    rw [residentsFrom, residentsFrom, size, size']
    rfl

theorem residentsFrom_eq_nil (apart : ∀ later, index ≤ later → home? tokens later ≠ some home) :
    residentsFrom tokens index home = [] := by
  refine List.filter_eq_nil_iff.mpr fun later within => ?_
  have after : index ≤ later := (List.mem_range'_1.mp within).1
  simp [apart later after]

/-- If nothing before an index lives there, the residents are those from the index on. -/
theorem residents_eq_residentsFrom
    (apart : ∀ earlier, earlier < index → home? tokens earlier ≠ some home) :
    residents tokens home = residentsFrom tokens index home := by
  induction index with
  | zero => exact residents_eq_residentsFrom_zero
  | succ index ih =>
    rw [ih fun earlier before => apart earlier (by omega)]
    exact residentsFrom_of_elsewhere (apart index (Nat.lt_succ_self index))

/-- The residents are the indices whose home it is. -/
theorem mem_residents_iff : index ∈ residents tokens home ↔
    index < tokens.length ∧ home? tokens index = some home := by
  simp [residents]

end Residents

end Gamebook.Script
