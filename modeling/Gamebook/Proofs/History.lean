import Gamebook.Proofs.Moves

/-!
# What the history of a script determines

A parse remembers what is current, and it does so in pointers that change as it
goes.  But all of this can be said of the tokens alone.  What is current at an
index is told by the last directives of each kind before it: a branch is open if
no `endif` stands between the last `if` and the index, and so on.

`ledgerAt` is the ledger that this gives for an index, and `entryAt?` is what the
token there adds.  `GoesOn` says that the script can be read from an index to the
end, each token in the ledger of its own index.  This is what a run by ledger
does (`GoesOn.of_run`, `GoesOn.run_eq`).  So a run needs no memory: what a token
does follows from where it stands.
-/

namespace Gamebook.Script

open Gamebook.Story

/-! ## Directives before an index -/

/-- The token is a directive with this keyword. -/
def Token.names (token : Token) (keyword : Keyword) : Bool :=
  token.kind = .directive && token.reading.keyword? = some keyword

/-- There is a directive with this keyword at this index. -/
def namesAt (tokens : List Token) (keyword : Keyword) (index : Nat) : Bool :=
  tokens[index]?.any (·.names keyword)

/-- The index of the last directive with this keyword before an index. -/
def lastBefore? (tokens : List Token) (keyword : Keyword) : Nat → Option Nat
  | 0 => none
  | index + 1 =>
    if namesAt tokens keyword index then some index else lastBefore? tokens keyword index

/-- The branch that is open at an index, by the index of its `if`: the last one
before, unless an `endif` stands between the two. -/
def openIf? (tokens : List Token) (index : Nat) : Option Nat :=
  (lastBefore? tokens .openIf index).filter fun opening =>
    (lastBefore? tokens .closeIf index).all (· < opening)

/-- The last `else` between the `if` of the open branch and an index. -/
def openElse? (tokens : List Token) (index : Nat) : Option Nat :=
  (openIf? tokens index).bind fun opening =>
    (lastBefore? tokens .openElse index).filter (opening < ·)

/-- The section that is current at an index, by the index of its heading: the
last one before, unless a chapter begins between the two. -/
def currentSection? (tokens : List Token) (index : Nat) : Option Nat :=
  (lastBefore? tokens .openSection index).filter fun heading =>
    (lastBefore? tokens .openChapter index).all (· < heading)

/-- The token at this index is a title: the one before is a heading. -/
def isTitle (tokens : List Token) : Nat → Bool
  | 0 => false
  | index + 1 =>
    namesAt tokens .openBook index || namesAt tokens .openChapter index ||
      namesAt tokens .openSection index

/-! ## Ledgers and entries by index -/

/-- The first field of the directive at this index. -/
def firstField? (tokens : List Token) (index : Nat) : Option String :=
  tokens[index]?.bind (·.reading.field? 0)

/-- The text of the token at this index. -/
def textAt? (tokens : List Token) (index : Nat) : Option String := tokens[index]?.map (·.text)

/-- The title of the book that has been opened before an index. -/
def titleAt? (tokens : List Token) (index : Nat) : Option String :=
  (lastBefore? tokens .openBook index).bind fun heading => textAt? tokens (heading + 1)

/-- The id of the chapter that is current at an index. -/
def chapterIdAt? (tokens : List Token) (index : Nat) : Option String :=
  (lastBefore? tokens .openChapter index).bind (firstField? tokens)

/-- The branch that is open at an index. -/
def branchAt? (tokens : List Token) (index : Nat) : Option OpenBranch :=
  (openIf? tokens index).bind fun opening => tokens[opening]?.map fun token =>
    ⟨token.reading.rest 0, token, (openElse? tokens index).isSome⟩

/-- The ledger that the tokens before an index lead to. -/
def ledgerAt (tokens : List Token) (index : Nat) : Ledger where
  position := index
  title := titleAt? tokens index
  chapterId := chapterIdAt? tokens index
  sectionId := (currentSection? tokens index).bind (firstField? tokens)
  branch := branchAt? tokens index
  pending := none

/-- What the directive at this index adds, where it has this keyword and these
fields. -/
def entryFor? (tokens : List Token) (index : Nat) (keyword : Keyword)
    (fields : List String) : Option Entry :=
  match keyword, fields with
  | .openChapter, id :: _ => (textAt? tokens (index + 1)).map (.newChapter id)
  | .openSection, id :: _ => (textAt? tokens (index + 1)).map (.newSection id)
  | .state, id :: modifier :: _ => some (.leaf (.state id modifier))
  | .item, word :: others =>
    if isRemove word then others.head?.map fun id => .leaf (.removeItem id)
    else some (.leaf (.addItem word))
  | .next, target :: label =>
    (chapterIdAt? tokens index).map fun chapterId =>
      .link ⟨" ".intercalate label, chapterId, target⟩
  | .jump, chapterId :: target :: label => some (.link ⟨" ".intercalate label, chapterId, target⟩)
  | .openIf, condition => some (.openBranch .ifBranch (" ".intercalate condition))
  | .openElse, _ =>
    (branchAt? tokens index).map fun branch => .openBranch .elseBranch branch.condition
  | .closeIf, _ => some .closeBranch
  | _, _ => none

/-- What the token at this index adds to the book.  A chapter or section is added
by its heading. -/
def entryAt? (tokens : List Token) (index : Nat) : Option Entry :=
  tokens[index]?.bind fun token =>
    match token.kind with
    | .paragraph =>
      if isTitle tokens index then none else some (.leaf (.paragraph token.text))
    | .directive =>
      token.reading.keyword?.bind fun keyword =>
        entryFor? tokens index keyword token.reading.fields

/-- What the tokens from an index on add, in order. -/
def entriesFrom (tokens : List Token) (index : Nat) : List Entry :=
  (List.range' index (tokens.length - index)).filterMap (entryAt? tokens)

section Lookup

variable {tokens : List Token} {index : Nat} {token : Token} {keyword : Keyword}
  {fields : List String}

theorem Token.Reads.names_eq (reads : token.Reads keyword fields) (other : Keyword) :
    token.names other = decide (keyword = other) := by
  simp [Token.names, reads.isDirective, reads.keyword_eq]

theorem Token.names_of_paragraph (isParagraph : token.kind = .paragraph) (keyword : Keyword) :
    token.names keyword = false := by
  simp [Token.names, isParagraph]

/-- A token names one keyword. -/
theorem namesAt_unique (other : Keyword) (named : namesAt tokens keyword index = true)
    (different : other ≠ keyword) : namesAt tokens other index = false := by
  unfold namesAt at *
  cases found : tokens[index]? with
  | none => rfl
  | some token =>
    rw [found] at named
    have known : token.reading.keyword? = some keyword := by
      simpa using (Bool.and_eq_true_iff.mp named).2
    have apart : keyword ≠ other := fun same => different same.symm
    simp [Token.names, known, apart]

theorem namesAt_of_found (found : tokens[index]? = some token) (keyword : Keyword) :
    namesAt tokens keyword index = token.names keyword := by
  simp [namesAt, found]

/-- A directive that is there is inside of the script. -/
theorem lt_length_of_namesAt (named : namesAt tokens keyword index = true) :
    index < tokens.length := by
  refine Nat.lt_of_not_le fun beyond => ?_
  simp [namesAt, List.getElem?_eq_none_iff.mpr beyond] at named

/-- A directive is the last one as seen from right behind it. -/
theorem lastBefore?_succ_of_names (named : namesAt tokens keyword index = true) :
    lastBefore? tokens keyword (index + 1) = some index := by
  simp [lastBefore?, named]

/-- What is no such directive leaves the last one as it was. -/
theorem lastBefore?_succ_of_not (unnamed : namesAt tokens keyword index = false) :
    lastBefore? tokens keyword (index + 1) = lastBefore? tokens keyword index := by
  simp [lastBefore?, unnamed]

/-- The last one before an index is there, and there is none between the two. -/
theorem of_lastBefore?_eq_some {last : Nat}
    (found : lastBefore? tokens keyword index = some last) :
    last < index ∧ namesAt tokens keyword last = true ∧
      ∀ between, last < between → between < index → namesAt tokens keyword between = false := by
  induction index with
  | zero => cases found
  | succ index ih =>
    cases named : namesAt tokens keyword index with
    | true =>
      rw [lastBefore?_succ_of_names named] at found
      cases found
      exact ⟨Nat.lt_succ_self _, named, fun between _ _ => by omega⟩
    | false =>
      rw [lastBefore?_succ_of_not named] at found
      obtain ⟨before, there, nothing⟩ := ih found
      refine ⟨by omega, there, fun between after below => ?_⟩
      rcases Nat.lt_succ_iff_lt_or_eq.mp below with below | rfl
      · exact nothing between after below
      · exact named

/-- Where there is no last one there is none at all. -/
theorem of_lastBefore?_eq_none (missing : lastBefore? tokens keyword index = none) (before : Nat)
    (below : before < index) : namesAt tokens keyword before = false := by
  induction index with
  | zero => cases below
  | succ index ih =>
    cases named : namesAt tokens keyword index with
    | true => simp [lastBefore?_succ_of_names named] at missing
    | false =>
      rw [lastBefore?_succ_of_not named] at missing
      rcases Nat.lt_succ_iff_lt_or_eq.mp below with below | rfl
      · exact ih missing below
      · exact named

theorem lt_of_lastBefore? {last : Nat} (found : lastBefore? tokens keyword index = some last) :
    last < index :=
  (of_lastBefore?_eq_some found).1

/-- Of all that come before an index, the last one is the last. -/
theorem le_lastBefore? {before : Nat} (named : namesAt tokens keyword before = true)
    (below : before < index) :
    ∃ last, lastBefore? tokens keyword index = some last ∧ before ≤ last := by
  cases found : lastBefore? tokens keyword index with
  | none =>
    have unnamed := of_lastBefore?_eq_none found before below
    simp [named] at unnamed
  | some last =>
    refine ⟨last, rfl, Nat.le_of_not_lt fun after => ?_⟩
    have unnamed := (of_lastBefore?_eq_some found).2.2 before after below
    simp [named] at unnamed

/-! ### Branches -/

/-- The open branch was opened before, and nothing has closed it since. -/
theorem of_openIf?_eq_some {opening : Nat} (isOpen : openIf? tokens index = some opening) :
    opening < index ∧ namesAt tokens .openIf opening = true ∧
      ∀ between, opening < between → between < index → namesAt tokens .closeIf between = false := by
  obtain ⟨found, unclosed⟩ := Option.filter_eq_some_iff.mp isOpen
  obtain ⟨below, named, -⟩ := of_lastBefore?_eq_some found
  refine ⟨below, named, fun between after before => ?_⟩
  cases closed : lastBefore? tokens .closeIf index with
  | none => exact of_lastBefore?_eq_none closed between before
  | some closing =>
    have earlier : closing < opening := by simpa [closed] using unclosed
    exact (of_lastBefore?_eq_some closed).2.2 between (by omega) before

/-- Where no branch is open, each one before has been closed. -/
theorem of_openIf?_eq_none (closed : openIf? tokens index = none) {opening : Nat}
    (named : namesAt tokens .openIf opening = true) (below : opening < index) :
    ∃ closing, opening < closing ∧ closing < index ∧ namesAt tokens .closeIf closing = true := by
  obtain ⟨last, found, le_last⟩ := le_lastBefore? named below
  rw [openIf?, found, Option.filter_some] at closed
  cases ended : lastBefore? tokens .closeIf index with
  | none => simp [ended] at closed
  | some closing =>
    obtain ⟨before, ends, -⟩ := of_lastBefore?_eq_some ended
    have later : last ≤ closing := by simpa [ended] using closed
    have apart : last ≠ closing := by
      rintro rfl
      have unnamed := namesAt_unique .openIf ends (by decide)
      simp [(of_lastBefore?_eq_some found).2.1] at unnamed
    exact ⟨closing, by omega, before, ends⟩

/-- The alternative stands behind the `if` of the open branch. -/
theorem of_openElse?_eq_some {turning : Nat} (turned : openElse? tokens index = some turning) :
    ∃ opening, openIf? tokens index = some opening ∧ opening < turning ∧ turning < index ∧
      namesAt tokens .openElse turning = true := by
  obtain ⟨opening, isOpen, found⟩ := Option.bind_eq_some_iff.mp turned
  obtain ⟨found, after⟩ := Option.filter_eq_some_iff.mp found
  obtain ⟨below, named, -⟩ := of_lastBefore?_eq_some found
  exact ⟨opening, isOpen, by simpa using after, below, named⟩

/-- An `else` behind the `if` of the open branch is enough for an alternative. -/
theorem openElse?_isSome {opening turning : Nat} (isOpen : openIf? tokens index = some opening)
    (named : namesAt tokens .openElse turning = true) (after : opening < turning)
    (below : turning < index) : (openElse? tokens index).isSome = true := by
  obtain ⟨last, found, le_last⟩ := le_lastBefore? named below
  have later : opening < last := by omega
  simp [openElse?, isOpen, found, later]

/-- The open branch is that of its `if`, and it has an alternative after an `else`. -/
theorem of_branchAt?_eq_some {branch : OpenBranch} (isOpen : branchAt? tokens index = some branch) :
    ∃ opening, openIf? tokens index = some opening ∧ tokens[opening]? = some branch.opener ∧
      branch.condition = branch.opener.reading.rest 0 ∧
      branch.hasElse = (openElse? tokens index).isSome := by
  obtain ⟨opening, opened, made⟩ := Option.bind_eq_some_iff.mp isOpen
  obtain ⟨token, found, rfl⟩ := Option.map_eq_some_iff.mp made
  exact ⟨opening, opened, found, rfl, rfl⟩

/-- There is no branch exactly when no `if` is open. -/
theorem branchAt?_eq_none_iff : branchAt? tokens index = none ↔ openIf? tokens index = none := by
  cases opened : openIf? tokens index with
  | none => simp [branchAt?, opened]
  | some opening =>
    have named := (of_openIf?_eq_some opened).2.1
    cases found : tokens[opening]? with
    | none => simp [namesAt, found] at named
    | some token => simp [branchAt?, opened, found]

end Lookup

/-! ## One index on -/

/-- The keyword is that of a chapter or section. -/
def Keyword.isPlace : Keyword → Bool
  | .openChapter | .openSection => true
  | _ => false

/-- The keyword opens, continues or closes a branch. -/
def Keyword.isBranching : Keyword → Bool
  | .openIf | .openElse | .closeIf => true
  | _ => false

/-- There is no directive with such a keyword at this index. -/
def Lacks (tokens : List Token) (kinds : Keyword → Bool) (index : Nat) : Prop :=
  ∀ keyword, kinds keyword = true → namesAt tokens keyword index = false

section Successor

variable {tokens : List Token} {index : Nat} {token : Token} {keyword : Keyword}
  {fields : List String} {kinds : Keyword → Bool}

/-- A directive lacks every kind of keyword that its own is not of. -/
theorem lacks_of_names (named : namesAt tokens keyword index = true)
    (other : kinds keyword = false) : Lacks tokens kinds index := by
  intro given isKind
  refine namesAt_unique given named ?_
  rintro rfl
  simp [other] at isKind

/-- What is no heading is none of a chapter or section. -/
theorem Lacks.isPlace (plain : Lacks tokens Keyword.isHeading index) :
    Lacks tokens Keyword.isPlace index := by
  intro keyword isPlace
  refine plain keyword ?_
  cases keyword with
  | openChapter => rfl
  | openSection => rfl
  | _ => cases isPlace

/-! ### What a token leaves as it is -/

/-- Only `if` and `endif` change what is open. -/
theorem openIf?_succ_of_not (noIf : namesAt tokens .openIf index = false)
    (noEnd : namesAt tokens .closeIf index = false) :
    openIf? tokens (index + 1) = openIf? tokens index := by
  simp only [openIf?, lastBefore?_succ_of_not noIf, lastBefore?_succ_of_not noEnd]

theorem openIf?_succ (steady : Lacks tokens Keyword.isBranching index) :
    openIf? tokens (index + 1) = openIf? tokens index :=
  openIf?_succ_of_not (steady .openIf rfl) (steady .closeIf rfl)

theorem openElse?_succ (steady : Lacks tokens Keyword.isBranching index) :
    openElse? tokens (index + 1) = openElse? tokens index := by
  simp only [openElse?, openIf?_succ steady, lastBefore?_succ_of_not (steady .openElse rfl)]

/-- Only the three keywords of branches change the branch. -/
theorem branchAt?_succ (steady : Lacks tokens Keyword.isBranching index) :
    branchAt? tokens (index + 1) = branchAt? tokens index := by
  simp only [branchAt?, openIf?_succ steady, openElse?_succ steady]

/-- Only the headings of chapters and sections change the section. -/
theorem currentSection?_succ (stays : Lacks tokens Keyword.isPlace index) :
    currentSection? tokens (index + 1) = currentSection? tokens index := by
  simp only [currentSection?, lastBefore?_succ_of_not (stays .openChapter rfl),
    lastBefore?_succ_of_not (stays .openSection rfl)]

theorem chapterIdAt?_succ_of_not (noChapter : namesAt tokens .openChapter index = false) :
    chapterIdAt? tokens (index + 1) = chapterIdAt? tokens index := by
  simp only [chapterIdAt?, lastBefore?_succ_of_not noChapter]

theorem titleAt?_succ_of_not (noBook : namesAt tokens .openBook index = false) :
    titleAt? tokens (index + 1) = titleAt? tokens index := by
  simp only [titleAt?, lastBefore?_succ_of_not noBook]

/-! ### What a token changes -/

/-- An `if` opens itself, whatever was closed before. -/
theorem openIf?_succ_of_openIf (named : namesAt tokens .openIf index = true) :
    openIf? tokens (index + 1) = some index := by
  have noEnd := namesAt_unique .closeIf named (by decide)
  rw [openIf?, lastBefore?_succ_of_names named, lastBefore?_succ_of_not noEnd, Option.filter_some]
  cases closed : lastBefore? tokens .closeIf index with
  | none => rfl
  | some closing => simp [lt_of_lastBefore? closed]

/-- A new branch has no alternative: every `else` so far stands before its `if`. -/
theorem openElse?_succ_of_openIf (named : namesAt tokens .openIf index = true) :
    openElse? tokens (index + 1) = none := by
  have noElse := namesAt_unique .openElse named (by decide)
  rw [openElse?, openIf?_succ_of_openIf named, lastBefore?_succ_of_not noElse, Option.bind_some]
  cases turned : lastBefore? tokens .openElse index with
  | none => rfl
  | some turning =>
    have before := lt_of_lastBefore? turned
    simp [Nat.le_of_lt before]

theorem lt_of_openIf? {opening : Nat} (isOpen : openIf? tokens index = some opening) :
    opening < index :=
  lt_of_lastBefore? (Option.eq_some_of_filter_eq_some isOpen)

/-- An alternative does not close its branch. -/
theorem openIf?_succ_of_openElse (named : namesAt tokens .openElse index = true) :
    openIf? tokens (index + 1) = openIf? tokens index :=
  openIf?_succ_of_not (namesAt_unique .openIf named (by decide))
    (namesAt_unique .closeIf named (by decide))

/-- An `else` is the alternative of the open branch, if one is open. -/
theorem openElse?_succ_of_openElse (named : namesAt tokens .openElse index = true) :
    openElse? tokens (index + 1) = (openIf? tokens index).map fun _ => index := by
  rw [openElse?, openIf?_succ_of_openElse named, lastBefore?_succ_of_names named]
  cases isOpen : openIf? tokens index with
  | none => rfl
  | some opening => simp [lt_of_openIf? isOpen]

/-- An `endif` closes whatever is open. -/
theorem openIf?_succ_of_closeIf (named : namesAt tokens .closeIf index = true) :
    openIf? tokens (index + 1) = none := by
  have noIf := namesAt_unique .openIf named (by decide)
  rw [openIf?, lastBefore?_succ_of_not noIf, lastBefore?_succ_of_names named]
  cases opened : lastBefore? tokens .openIf index with
  | none => rfl
  | some opening =>
    have before := lt_of_lastBefore? opened
    simp [Nat.le_of_lt before]

/-- The heading of a section makes it current. -/
theorem currentSection?_succ_of_openSection
    (named : namesAt tokens .openSection index = true) :
    currentSection? tokens (index + 1) = some index := by
  have noChapter := namesAt_unique .openChapter named (by decide)
  rw [currentSection?, lastBefore?_succ_of_names named, lastBefore?_succ_of_not noChapter,
    Option.filter_some]
  cases current : lastBefore? tokens .openChapter index with
  | none => rfl
  | some chapter => simp [lt_of_lastBefore? current]

/-- The heading of a chapter leaves no section current. -/
theorem currentSection?_succ_of_openChapter
    (named : namesAt tokens .openChapter index = true) :
    currentSection? tokens (index + 1) = none := by
  have noSection := namesAt_unique .openSection named (by decide)
  rw [currentSection?, lastBefore?_succ_of_not noSection, lastBefore?_succ_of_names named]
  cases current : lastBefore? tokens .openSection index with
  | none => rfl
  | some heading =>
    have before := lt_of_lastBefore? current
    simp [Nat.le_of_lt before]

end Successor

/-! ## The ledger of the next index -/

/-- The token opens this heading. -/
def Token.Opens (token : Token) : Heading → Prop
  | .ofBook => ∃ surplus, token.Reads .openBook surplus
  | .ofChapter id => ∃ surplus, token.Reads .openChapter (id :: surplus)
  | .ofSection id => ∃ surplus, token.Reads .openSection (id :: surplus)

section Step

variable {tokens : List Token} {index : Nat} {token title : Token} {keyword : Keyword}
  {fields : List String} {heading : Heading}

theorem namesAt_of_reads (found : tokens[index]? = some token)
    (reads : token.Reads keyword fields) (other : Keyword) :
    namesAt tokens other index = decide (keyword = other) :=
  (namesAt_of_found found other).trans (reads.names_eq other)

theorem namesAt_of_reads_self (found : tokens[index]? = some token)
    (reads : token.Reads keyword fields) : namesAt tokens keyword index = true := by
  simp [namesAt_of_reads found reads]

theorem namesAt_of_paragraph (found : tokens[index]? = some token)
    (isParagraph : token.kind = .paragraph) (other : Keyword) :
    namesAt tokens other index = false :=
  (namesAt_of_found found other).trans (Token.names_of_paragraph isParagraph other)

theorem lacks_of_reads {kinds : Keyword → Bool} (found : tokens[index]? = some token)
    (reads : token.Reads keyword fields) (other : kinds keyword = false) :
    Lacks tokens kinds index :=
  lacks_of_names (namesAt_of_reads_self found reads) other

theorem lacks_of_paragraph {kinds : Keyword → Bool} (found : tokens[index]? = some token)
    (isParagraph : token.kind = .paragraph) : Lacks tokens kinds index :=
  fun keyword _ => namesAt_of_paragraph found isParagraph keyword

theorem firstField?_of_reads {first : String} {others : List String}
    (found : tokens[index]? = some token) (reads : token.Reads keyword (first :: others)) :
    firstField? tokens index = some first := by
  rw [firstField?, found, Option.bind_some, Directive.field?, reads.fields_eq]
  rfl

/-- What a directive adds is told by its keyword and its fields. -/
theorem entryAt?_of_reads (found : tokens[index]? = some token)
    (reads : token.Reads keyword fields) :
    entryAt? tokens index = entryFor? tokens index keyword fields := by
  simp only [entryAt?, found, Option.bind_some, reads.isDirective, reads.keyword_eq,
    reads.fields_eq]

/-- A paragraph adds itself, unless it is a title. -/
theorem entryAt?_of_paragraph (found : tokens[index]? = some token)
    (isParagraph : token.kind = .paragraph) :
    entryAt? tokens index =
      if isTitle tokens index then none else some (.leaf (.paragraph token.text)) := by
  simp only [entryAt?, found, Option.bind_some, isParagraph]

theorem Token.Opens.reads (opens : token.Opens heading) :
    ∃ fields, token.Reads heading.keyword fields := by
  cases heading with
  | ofBook => exact opens
  | ofChapter id => exact opens.imp' (id :: ·) fun _ reads => reads
  | ofSection id => exact opens.imp' (id :: ·) fun _ reads => reads

/-! ### A token on its own -/

/-- A token that is no heading changes nothing in the ledger but the position and the branch. -/
theorem ledgerAt_succ_of_plain (plain : Lacks tokens Keyword.isHeading index) :
    ledgerAt tokens (index + 1) =
      { (ledgerAt tokens index).advance with branch := branchAt? tokens (index + 1) } := by
  simp only [ledgerAt, Ledger.advance, titleAt?_succ_of_not (plain .openBook rfl),
    chapterIdAt?_succ_of_not (plain .openChapter rfl), currentSection?_succ plain.isPlace]

/-- A token that is no keyword of branches either changes the position only. -/
theorem ledgerAt_succ (plain : Lacks tokens Keyword.isHeading index)
    (steady : Lacks tokens Keyword.isBranching index) :
    ledgerAt tokens (index + 1) = (ledgerAt tokens index).advance := by
  rw [ledgerAt_succ_of_plain plain, branchAt?_succ steady]
  rfl

theorem ledgerAt_succ_of_reads (found : tokens[index]? = some token)
    (reads : token.Reads keyword fields) (plain : keyword.isHeading = false)
    (steady : keyword.isBranching = false) :
    ledgerAt tokens (index + 1) = (ledgerAt tokens index).advance :=
  ledgerAt_succ (lacks_of_reads found reads plain) (lacks_of_reads found reads steady)

theorem ledgerAt_succ_of_paragraph (found : tokens[index]? = some token)
    (isParagraph : token.kind = .paragraph) :
    ledgerAt tokens (index + 1) = (ledgerAt tokens index).advance :=
  ledgerAt_succ (lacks_of_paragraph found isParagraph) (lacks_of_paragraph found isParagraph)

/-- An `if` changes the ledger of its index as a step does. -/
theorem ledgerAt_succ_of_openIf (found : tokens[index]? = some token)
    (reads : token.Reads .openIf fields) :
    ledgerAt tokens (index + 1) =
      ((ledgerAt tokens index).beginIf (" ".intercalate fields) token).advance := by
  have named : namesAt tokens .openIf index = true := namesAt_of_reads_self found reads
  have opened : branchAt? tokens (index + 1) = some ⟨" ".intercalate fields, token, false⟩ := by
    simp [branchAt?, openIf?_succ_of_openIf named, openElse?_succ_of_openIf named, found,
      reads.rest_eq]
  rw [ledgerAt_succ_of_plain (lacks_of_reads found reads rfl), opened]
  rfl

/-- So does an `else`. -/
theorem ledgerAt_succ_of_openElse (found : tokens[index]? = some token)
    (reads : token.Reads .openElse fields) :
    ledgerAt tokens (index + 1) = (ledgerAt tokens index).beginElse.advance := by
  have named : namesAt tokens .openElse index = true := namesAt_of_reads_self found reads
  have turned : branchAt? tokens (index + 1) =
      (branchAt? tokens index).map ({ · with hasElse := true }) := by
    rw [branchAt?, branchAt?, openIf?_succ_of_openElse named, openElse?_succ_of_openElse named]
    cases openIf? tokens index with
    | none => rfl
    | some opening =>
      simp only [Option.bind_some]
      cases tokens[opening]? <;> rfl
  rw [ledgerAt_succ_of_plain (lacks_of_reads found reads rfl), turned]
  rfl

/-- And so does an `endif`. -/
theorem ledgerAt_succ_of_closeIf (found : tokens[index]? = some token)
    (reads : token.Reads .closeIf fields) :
    ledgerAt tokens (index + 1) = (ledgerAt tokens index).endIf.advance := by
  have named : namesAt tokens .closeIf index = true := namesAt_of_reads_self found reads
  have closed : branchAt? tokens (index + 1) = none := by
    simp [branchAt?, openIf?_succ_of_closeIf named]
  rw [ledgerAt_succ_of_plain (lacks_of_reads found reads rfl), closed]
  rfl

/-! ### A heading and its title -/

theorem Heading.isBranching_keyword (heading : Heading) : heading.keyword.isBranching = false := by
  cases heading <;> rfl

theorem Heading.isHeading_keyword (heading : Heading) : heading.keyword.isHeading = true := by
  cases heading <;> rfl

theorem branchAt?_succ_of_opens (found : tokens[index]? = some token)
    (opens : token.Opens heading) : branchAt? tokens (index + 1) = branchAt? tokens index := by
  obtain ⟨fields, reads⟩ := opens.reads
  exact branchAt?_succ (lacks_of_reads found reads heading.isBranching_keyword)

/-- A heading and its title together lead to the ledger behind them, and what
they add is the entry of the heading. -/
theorem ledgerAt_after_title (found : tokens[index]? = some token) (opens : token.Opens heading)
    (titled : tokens[index + 1]? = some title) (isParagraph : title.kind = .paragraph) :
    ((ledgerAt tokens index).await heading token).entitle heading title.text =
      (ledgerAt tokens (index + 2), entryAt? tokens index) := by
  have text : textAt? tokens (index + 1) = some title.text := by simp [textAt?, titled]
  have sameBranch := branchAt?_succ_of_opens found opens
  rw [ledgerAt_succ_of_paragraph titled isParagraph]
  -- Each heading changes what it opens, and the rest is as it was before the heading.
  cases heading with
  | ofBook =>
    obtain ⟨surplus, reads⟩ := opens
    have named := namesAt_of_reads_self found reads
    have stays : Lacks tokens Keyword.isPlace index := lacks_of_names named rfl
    rw [entryAt?_of_reads found reads]
    simp only [ledgerAt, Ledger.await, Ledger.entitle, Ledger.advance, sameBranch,
      chapterIdAt?_succ_of_not (stays .openChapter rfl), currentSection?_succ stays,
      titleAt?, lastBefore?_succ_of_names named, Option.bind_some, text, entryFor?]
  | ofChapter id =>
    obtain ⟨surplus, reads⟩ := opens
    have named := namesAt_of_reads_self found reads
    have noBook := namesAt_unique .openBook named (by decide)
    rw [entryAt?_of_reads found reads]
    simp only [ledgerAt, Ledger.await, Ledger.entitle, Ledger.advance, sameBranch,
      titleAt?_succ_of_not noBook, currentSection?_succ_of_openChapter named, chapterIdAt?,
      lastBefore?_succ_of_names named, firstField?_of_reads found reads, Option.bind_some,
      Option.bind_none, Option.map_some, text, entryFor?]
  | ofSection id =>
    obtain ⟨surplus, reads⟩ := opens
    have named := namesAt_of_reads_self found reads
    have noBook := namesAt_unique .openBook named (by decide)
    have noChapter := namesAt_unique .openChapter named (by decide)
    rw [entryAt?_of_reads found reads]
    simp only [ledgerAt, Ledger.await, Ledger.entitle, Ledger.advance, sameBranch,
      titleAt?_succ_of_not noBook, chapterIdAt?_succ_of_not noChapter,
      currentSection?_succ_of_openSection named, firstField?_of_reads found reads,
      Option.bind_some, Option.map_some, text, entryFor?]

/-! ### Every move -/

theorem isTitle_succ_of_plain (plain : Lacks tokens Keyword.isHeading index) :
    isTitle tokens (index + 1) = false := by
  simp [isTitle, plain .openBook rfl, plain .openChapter rfl, plain .openSection rfl]

theorem isTitle_succ_of_reads (found : tokens[index]? = some token)
    (reads : token.Reads keyword fields) (plain : keyword.isHeading = false) :
    isTitle tokens (index + 1) = false :=
  isTitle_succ_of_plain (lacks_of_reads found reads plain)

theorem isTitle_succ_of_paragraph (found : tokens[index]? = some token)
    (isParagraph : token.kind = .paragraph) : isTitle tokens (index + 1) = false :=
  isTitle_succ_of_plain (lacks_of_paragraph found isParagraph)

/-- What stands behind a heading is a title. -/
theorem isTitle_succ_of_opens (found : tokens[index]? = some token)
    (opens : token.Opens heading) : isTitle tokens (index + 1) = true := by
  obtain ⟨fields, reads⟩ := opens.reads
  cases heading <;> simp [isTitle, namesAt_of_reads found reads, Heading.keyword]

/-- A move from the ledger of an index leads to that of the next, or it is a heading. -/
theorem Ledger.Moves.at_index {mode : Mode} {next : Ledger} {entry : Option Entry}
    (moves : (ledgerAt tokens index).Moves mode token next entry)
    (found : tokens[index]? = some token) (untitled : isTitle tokens index = false) :
    (next = ledgerAt tokens (index + 1) ∧ entry = entryAt? tokens index ∧
        isTitle tokens (index + 1) = false) ∨
      ∃ heading, token.Opens heading ∧ next = (ledgerAt tokens index).await heading token ∧
        entry = none := by
  cases moves with
  | title waiting isParagraph => cases waiting
  | openBook reads ready unbegun => exact .inr ⟨.ofBook, ⟨_, reads⟩, rfl, rfl⟩
  | openChapter takes closed => exact .inr ⟨.ofChapter _, ⟨_, takes.toReads⟩, rfl, rfl⟩
  | openSection takes inChapter closed => exact .inr ⟨.ofSection _, ⟨_, takes.toReads⟩, rfl, rfl⟩
  | paragraph isParagraph ready begun inside =>
    have entered := entryAt?_of_paragraph found isParagraph
    rw [untitled] at entered
    exact .inl ⟨(ledgerAt_succ_of_paragraph found isParagraph).symm, entered.symm,
      isTitle_succ_of_paragraph found isParagraph⟩
  | state takes inside =>
    exact .inl ⟨(ledgerAt_succ_of_reads found takes.toReads rfl rfl).symm,
      (entryAt?_of_reads found takes.toReads).symm,
      isTitle_succ_of_reads found takes.toReads rfl⟩
  | addItem takes kept inSection =>
    have entered := entryAt?_of_reads found takes.toReads
    rw [entryFor?, kept] at entered
    exact .inl ⟨(ledgerAt_succ_of_reads found takes.toReads rfl rfl).symm, entered.symm,
      isTitle_succ_of_reads found takes.toReads rfl⟩
  | removeItem takes removed inSection =>
    have entered := entryAt?_of_reads found takes.toReads
    rw [entryFor?, removed] at entered
    exact .inl ⟨(ledgerAt_succ_of_reads found takes.toReads rfl rfl).symm, entered.symm,
      isTitle_succ_of_reads found takes.toReads rfl⟩
  | next takes inChapter inSection =>
    have current : chapterIdAt? tokens index = some _ := inChapter
    have entered := entryAt?_of_reads found takes.toReads
    rw [entryFor?, current] at entered
    exact .inl ⟨(ledgerAt_succ_of_reads found takes.toReads rfl rfl).symm, entered.symm,
      isTitle_succ_of_reads found takes.toReads rfl⟩
  | jump takes inSection =>
    exact .inl ⟨(ledgerAt_succ_of_reads found takes.toReads rfl rfl).symm,
      (entryAt?_of_reads found takes.toReads).symm,
      isTitle_succ_of_reads found takes.toReads rfl⟩
  | openIf takes closed inSection =>
    exact .inl ⟨(ledgerAt_succ_of_openIf found takes.toReads).symm,
      (entryAt?_of_reads found takes.toReads).symm,
      isTitle_succ_of_reads found takes.toReads rfl⟩
  | openElse takes isOpen single inSection =>
    have opened : branchAt? tokens index = some _ := isOpen
    have entered := entryAt?_of_reads found takes.toReads
    rw [entryFor?, opened] at entered
    exact .inl ⟨(ledgerAt_succ_of_openElse found takes.toReads).symm, entered.symm,
      isTitle_succ_of_reads found takes.toReads rfl⟩
  | closeIf takes isOpen =>
    exact .inl ⟨(ledgerAt_succ_of_closeIf found takes.toReads).symm,
      (entryAt?_of_reads found takes.toReads).symm,
      isTitle_succ_of_reads found takes.toReads rfl⟩

end Step

/-! ## From an index to the end -/

/-- The script can be read from the index to its end, each token by itself and in
the ledger of its index, but a heading together with its title. -/
inductive GoesOn (mode : Mode) (tokens : List Token) : Nat → Prop where
  /-- The end. -/
  | done : GoesOn mode tokens tokens.length
  /-- A token by itself. -/
  | token {index : Nat} {token : Token} (found : tokens[index]? = some token)
      (moves : (ledgerAt tokens index).Moves mode token (ledgerAt tokens (index + 1))
        (entryAt? tokens index))
      (later : GoesOn mode tokens (index + 1)) : GoesOn mode tokens index
  /-- A heading and its title. -/
  | heading {index : Nat} {opening title : Token} {heading : Heading}
      (found : tokens[index]? = some opening) (opens : opening.Opens heading)
      (moves : (ledgerAt tokens index).Moves mode opening
        ((ledgerAt tokens index).await heading opening) none)
      (titled : tokens[index + 1]? = some title) (isParagraph : title.kind = .paragraph)
      (later : GoesOn mode tokens (index + 2)) : GoesOn mode tokens index

section Run

variable {mode : Mode} {tokens : List Token} {index : Nat} {token title : Token}
  {heading : Heading}

theorem drop_of_found (found : tokens[index]? = some token) :
    tokens.drop index = token :: tokens.drop (index + 1) :=
  (List.getElem?_eq_some_iff.mp found).elim fun below there => by
    rw [← there, List.drop_eq_getElem_cons below]

/-- The entries from an index on are that of the index and the later ones. -/
theorem entriesFrom_of_found (found : tokens[index]? = some token) :
    entriesFrom tokens index =
      (entryAt? tokens index).toList ++ entriesFrom tokens (index + 1) := by
  have below : index < tokens.length := (List.getElem?_eq_some_iff.mp found).1
  have size : tokens.length - index = (tokens.length - (index + 1)) + 1 := by omega
  rw [entriesFrom, size, List.range'_succ, List.filterMap_cons]
  cases entryAt? tokens index <;> rfl

/-- A heading adds its entry, and its title adds none. -/
theorem entriesFrom_of_heading (found : tokens[index]? = some token) (opens : token.Opens heading)
    (titled : tokens[index + 1]? = some title) (isParagraph : title.kind = .paragraph) :
    entriesFrom tokens index =
      (entryAt? tokens index).toList ++ entriesFrom tokens (index + 2) := by
  have adds : entryAt? tokens (index + 1) = none := by
    rw [entryAt?_of_paragraph titled isParagraph, isTitle_succ_of_opens found opens]
    rfl
  rw [entriesFrom_of_found found, entriesFrom_of_found titled, adds]
  rfl

/-- What goes on to the end is what a run by ledger does. -/
theorem GoesOn.run_eq (goes : GoesOn mode tokens index) :
    Ledger.run mode (ledgerAt tokens index) (tokens.drop index) =
      .ok (ledgerAt tokens tokens.length, entriesFrom tokens index) := by
  induction goes with
  | done =>
    rw [List.drop_length, entriesFrom, Nat.sub_self]
    rfl
  | token found moves later ih =>
    rw [drop_of_found found, entriesFrom_of_found found]
    exact Ledger.run_cons_eq_ok_iff.mpr ⟨_, _, _, moves, ih, rfl⟩
  | @heading index opening title heading found opens moves titled isParagraph later ih =>
    rw [drop_of_found found, drop_of_found titled,
      entriesFrom_of_heading found opens titled isParagraph]
    refine Ledger.run_cons_eq_ok_iff.mpr ⟨_, _, _, moves, ?_, rfl⟩
    have moves' : ((ledgerAt tokens index).await heading opening).Moves mode title _ _ :=
      .title rfl isParagraph
    rw [ledgerAt_after_title found opens titled isParagraph] at moves'
    exact Ledger.run_cons_eq_ok_iff.mpr ⟨_, _, _, moves', ih, rfl⟩

/-- A run by ledger that ends without a heading goes on from index to index. -/
theorem GoesOn.of_run {index : Nat} {last : Ledger} {entries : List Entry}
    (within : index ≤ tokens.length)
    (untitled : isTitle tokens index = false)
    (ran : Ledger.run mode (ledgerAt tokens index) (tokens.drop index) = .ok (last, entries))
    (ended : last.pending = none) : GoesOn mode tokens index := by
  cases found : tokens[index]? with
  | none =>
    obtain rfl : index = tokens.length := by
      have beyond := List.getElem?_eq_none_iff.mp found
      omega
    exact .done
  | some token =>
    have below : index < tokens.length := (List.getElem?_eq_some_iff.mp found).1
    rw [drop_of_found found] at ran
    obtain ⟨next, entry, later, moves, onward, rfl⟩ := Ledger.run_cons_eq_ok_iff.mp ran
    rcases moves.at_index found untitled with ⟨rfl, rfl, untitled'⟩ | ⟨heading, opens, rfl, rfl⟩
    · exact .token found moves (.of_run below untitled' onward ended)
    · -- A heading is followed by its title: at the end of the script it would still wait.
      cases titled : tokens[index + 1]? with
      | none =>
        rw [List.drop_eq_nil_of_le (List.getElem?_eq_none_iff.mp titled)] at onward
        cases onward
        cases ended
      | some title =>
        have within' : index + 2 ≤ tokens.length := (List.getElem?_eq_some_iff.mp titled).1
        rw [drop_of_found titled] at onward
        obtain ⟨next, entry, later', moves', beyond, rfl⟩ := Ledger.run_cons_eq_ok_iff.mp onward
        cases moves' with
        | @title pending waiting isParagraph =>
          cases waiting
          rw [ledgerAt_after_title found opens titled isParagraph] at beyond
          exact .heading found opens moves titled isParagraph
            (.of_run within' (isTitle_succ_of_paragraph titled isParagraph) beyond ended)
        | openBook reads ready unbegun => cases ready
        | paragraph isParagraph ready begun inside => cases ready
        | _ takes => cases takes.ready
termination_by tokens.length - index

/-- A parse by ledger gives a book exactly when the script goes on to its end, and
the book is that of the entries by index. -/
theorem ledger_parse_eq_ok_iff_goesOn {book : Book} :
    (Ledger.parse mode tokens).result = .ok book ↔
      GoesOn mode tokens 0 ∧ (mode = .strict → branchAt? tokens tokens.length = none) ∧
        ∃ title, titleAt? tokens tokens.length = some title ∧
          book = bookOfEntries title (entriesFrom tokens 0) := by
  rw [Ledger.parse_eq_ok_iff]
  constructor
  · rintro ⟨last, entries, title, ran, ended, closed, titled, rfl⟩
    have goes : GoesOn mode tokens 0 := .of_run (Nat.zero_le _) rfl ran ended
    obtain ⟨rfl, rfl⟩ := Prod.mk.inj (Except.ok.inj (ran.symm.trans goes.run_eq))
    exact ⟨goes, closed, title, titled, rfl⟩
  · rintro ⟨goes, closed, title, titled, rfl⟩
    exact ⟨_, _, title, goes.run_eq, rfl, closed, titled, rfl⟩

end Run

end Gamebook.Script
