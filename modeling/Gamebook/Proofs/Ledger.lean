import Gamebook.Proofs.Entry
import Gamebook.Script.Parse

/-!
# Ledgers

The checks of a parse look at little of the book.  A *ledger* has just that: the
title of the book, the ids of the current chapter and section, the condition of
the open branch and whether it has an alternative.  It has no book and no
pointers.  What a token adds is written down as an entry instead.

A parse by ledger goes through the tokens like a parse does, and the entries
give the book.  `Proofs/Simulation` shows that the two are the same.  So what a
parse accepts, reports and builds can be read off the ledger.

What one token can do to a ledger is in `Proofs/Moves`, as a relation with one
case for each kind of token.
-/

namespace Gamebook.Script

open Gamebook.Story

/-! ## Ledgers -/

/-- A branch that is not closed yet. -/
structure OpenBranch where
  /-- Its condition. -/
  condition : String
  /-- The directive that opened it. -/
  opener : Token
  /-- It has an alternative already. -/
  hasElse : Bool
  deriving DecidableEq, Repr

/-- What the checks of a parse look at. -/
structure Ledger where
  /-- How many tokens are done with.  A heading is not before its title. -/
  position : Nat
  /-- The title of the book, if it has begun. -/
  title : Option String
  /-- The id of the current chapter. -/
  chapterId : Option String
  /-- The id of the current section. -/
  sectionId : Option String
  /-- The open branch. -/
  branch : Option OpenBranch
  /-- The heading without a title. -/
  pending : Option Pending
  deriving DecidableEq, Repr

namespace Ledger

/-- The ledger before the first token. -/
def initial : Ledger := ⟨0, none, none, none, none, none⟩

/-- The place in the book. -/
def scope (ledger : Ledger) : Scope :=
  ⟨ledger.chapterId, ledger.sectionId, ledger.branch.map (·.condition)⟩

/-- One more token is done with. -/
def advance (ledger : Ledger) : Ledger := { ledger with position := ledger.position + 1 }

/-- The heading is read and its title is to come. -/
def await (ledger : Ledger) (heading : Heading) (token : Token) : Ledger :=
  { ledger with pending := some ⟨heading, token⟩ }

/-- The heading has its title, and both tokens are done with. -/
def entitle (ledger : Ledger) (heading : Heading) (title : String) : Ledger × Option Entry :=
  let ledger := { ledger with position := ledger.position + 2, pending := none }
  match heading with
  | .ofBook => ({ ledger with title := some title }, none)
  | .ofChapter id =>
    ({ ledger with chapterId := some id, sectionId := none }, some (.newChapter id title))
  | .ofSection id => ({ ledger with sectionId := some id }, some (.newSection id title))

/-- A title ends the wait. -/
@[simp] theorem entitle_pending (ledger : Ledger) (heading : Heading) (title : String) :
    (ledger.entitle heading title).1.pending = none := by
  cases heading <;> rfl

@[simp] theorem entitle_position (ledger : Ledger) (heading : Heading) (title : String) :
    (ledger.entitle heading title).1.position = ledger.position + 2 := by
  cases heading <;> rfl

/-- The branch is open now. -/
def beginIf (ledger : Ledger) (condition : String) (token : Token) : Ledger :=
  { ledger with branch := some ⟨condition, token, false⟩ }

/-- The open branch has an alternative now. -/
def beginElse (ledger : Ledger) : Ledger :=
  { ledger with branch := ledger.branch.map ({ · with hasElse := true }) }

/-- No branch is open now. -/
def endIf (ledger : Ledger) : Ledger := { ledger with branch := none }

/-! ## Steps -/

/-- In strict mode, no chapter or section begins while a branch is open. -/
def checkClosed (ledger : Ledger) (mode : Mode) (heading : Keyword) : Except Cause Unit :=
  match mode, ledger.branch with
  | .strict, some branch => .error (.openAtHeading heading branch.condition)
  | _, _ => .ok ()

/-- The step of a directive whose keyword is known. -/
def directiveStep (mode : Mode) (ledger : Ledger) (token : Token) (directive : Directive) :
    Keyword → Except Cause (Ledger × Option Entry)
  | .openBook => do
    forbid ledger.title.isSome .duplicateBook
    return (ledger.await .ofBook token, none)
  | .openChapter => do
    ledger.checkClosed mode .openChapter
    let id ← directive.demandField 0 "a chapter id"
    return (ledger.await (.ofChapter id) token, none)
  | .openSection => do
    forbid ledger.chapterId.isNone (.misplaced .openSection .openChapter)
    ledger.checkClosed mode .openSection
    let id ← directive.demandField 0 "a section id"
    return (ledger.await (.ofSection id) token, none)
  | .next => do
    let chapterId ← demand ledger.chapterId (.misplaced .next .openChapter)
    let target ← directive.demandField 0 "a target section id"
    forbid ledger.sectionId.isNone (.misplaced .next .openSection)
    return (ledger.advance, some (.link ⟨directive.rest 1, chapterId, target⟩))
  | .jump => do
    forbid ledger.sectionId.isNone (.misplaced .jump .openSection)
    let chapterId ← directive.demandField 0 "a target chapter id"
    let target ← directive.demandField 1 "a target section id"
    return (ledger.advance, some (.link ⟨directive.rest 2, chapterId, target⟩))
  | .state => do
    forbid (ledger.branch.isNone && ledger.sectionId.isNone) (.misplaced .state .openSection)
    let id ← directive.demandField 0 "a state id"
    let modifier ← directive.demandField 1 "a modifier"
    return (ledger.advance, some (.leaf (.state id modifier)))
  | .item => do
    forbid ledger.sectionId.isNone (.misplaced .item .openSection)
    let leaf ← itemLeaf directive
    return (ledger.advance, some (.leaf leaf))
  | .openIf => do
    forbid ledger.branch.isSome .nestedIf
    forbid ledger.sectionId.isNone (.misplaced .openIf .openSection)
    let condition := directive.rest 0
    forbid condition.isEmpty (.missingArgument Keyword.openIf.spelling "a condition")
    return ((ledger.beginIf condition token).advance, some (.openBranch .ifBranch condition))
  | .openElse => do
    let branch ← demand ledger.branch .strayElse
    forbid (mode = .strict && branch.hasElse) (.secondElse branch.condition)
    forbid ledger.sectionId.isNone (.misplaced .openElse .openSection)
    return (ledger.beginElse.advance, some (.openBranch .elseBranch branch.condition))
  | .closeIf => do
    forbid ledger.branch.isNone .strayEndif
    return (ledger.endIf.advance, some .closeBranch)

/-- The step of a directive that is no title. -/
def commandStep (mode : Mode) (ledger : Ledger) (token : Token) :
    Except Cause (Ledger × Option Entry) := do
  let keyword ← demand token.reading.keyword? (.unknownDirective token.reading.name)
  forbid (ledger.title.isNone && keyword ≠ .openBook) (.beforeBook (quoted keyword.spelling))
  directiveStep mode ledger token token.reading keyword

/-- The step of a paragraph that is no title. -/
def paragraphStep (ledger : Ledger) (text : String) : Except Cause (Ledger × Option Entry) := do
  forbid ledger.title.isNone (.beforeBook "text")
  forbid (ledger.branch.isNone && ledger.sectionId.isNone)
    (.outOfOrder "text" Keyword.openSection.spelling)
  return (ledger.advance, some (.leaf (.paragraph text)))

/-- What the token does to the ledger, and what it adds to the book. -/
def step (mode : Mode) (ledger : Ledger) (token : Token) : Except Cause (Ledger × Option Entry) :=
  match ledger.pending, token.kind with
  | some pending, .paragraph => .ok (ledger.entitle pending.heading token.text)
  | some pending, .directive => .error (.missingTitle pending.heading.keyword)
  | none, .paragraph => paragraphStep ledger token.text
  | none, .directive => commandStep mode ledger token

/-! ## Runs -/

/-- A violation at a ledger, pointing at a token. -/
def failure (ledger : Ledger) (cause : Cause) (token : Token) : Failure :=
  ⟨⟨cause, some token, ledger.scope⟩, ledger.position⟩

/-- Goes through the tokens, collecting the entries. -/
def run (mode : Mode) : Ledger → List Token → Except Failure (Ledger × List Entry)
  | ledger, [] => .ok (ledger, [])
  | ledger, token :: rest =>
    match step mode ledger token with
    | .error cause => .error (ledger.failure cause token)
    | .ok (ledger, entry) =>
      match run mode ledger rest with
      | .error failure => .error failure
      | .ok (ledger, entries) => .ok (ledger, entry.toList ++ entries)

/-- The end of the tokens. -/
def finish (mode : Mode) (ledger : Ledger) (entries : List Entry) : Except Failure Book :=
  match ledger.pending with
  | some pending =>
    .error (ledger.failure (.missingTitle pending.heading.keyword) pending.token)
  | none =>
    match mode, ledger.branch with
    | .strict, some branch =>
      .error (ledger.failure (.neverClosed branch.condition) branch.opener)
    | _, _ =>
      match ledger.title with
      | some title => .ok (bookOfEntries title entries)
      | none => .error ⟨.ofCause .missingBook, ledger.position⟩

/-- The outcome of the tokens. -/
def parse (mode : Mode) (tokens : List Token) : Outcome :=
  if tokens = [] then ⟨.error (.ofCause .emptyInput), 0⟩
  else
    match run mode .initial tokens with
    | .error failure => ⟨.error failure.error, failure.position⟩
    | .ok (ledger, entries) =>
      match ledger.finish mode entries with
      | .error failure => ⟨.error failure.error, failure.position⟩
      | .ok book => ⟨.ok book, ledger.position⟩

/-! ## Books -/

variable {mode : Mode} {ledger : Ledger} {tokens : List Token} {entries : List Entry}
  {book : Book}

/-- A run ends with a book if no title is waited for, no branch is left open in
strict mode, and the book has been titled. -/
theorem finish_eq_ok_iff : ledger.finish mode entries = .ok book ↔
    ledger.pending = none ∧ (mode = .strict → ledger.branch = none) ∧
      ∃ title, ledger.title = some title ∧ book = bookOfEntries title entries := by
  unfold finish
  cases ledger.pending <;> cases mode <;> cases ledger.branch <;> cases ledger.title <;>
    simp [eq_comm]

/-- A parse by ledger gives a book when the run comes to a good end. -/
theorem parse_eq_ok_iff : (parse mode tokens).result = .ok book ↔ ∃ last entries title,
    run mode .initial tokens = .ok (last, entries) ∧ last.pending = none ∧
      (mode = .strict → last.branch = none) ∧ last.title = some title ∧
      book = bookOfEntries title entries := by
  cases tokens with
  | nil =>
    constructor
    · intro parsed
      cases parsed
    · rintro ⟨last, entries, title, ran, -, -, titled, -⟩
      cases ran
      cases titled
  | cons token rest =>
    simp only [parse, if_neg (List.cons_ne_nil token rest)]
    cases ran : run mode .initial (token :: rest) with
    | error failure => simp
    | ok ended =>
      obtain ⟨last, entries⟩ := ended
      constructor
      · intro parsed
        cases finished : last.finish mode entries with
        | error failure => simp [finished] at parsed
        | ok made =>
          obtain rfl : made = book := by simpa [finished] using parsed
          obtain ⟨ended, closed, title, titled, same⟩ := finish_eq_ok_iff.mp finished
          exact ⟨last, entries, title, rfl, ended, closed, titled, same⟩
      · rintro ⟨_, _, title, same, ended, closed, titled, rfl⟩
        obtain ⟨rfl, rfl⟩ := Prod.mk.inj (Except.ok.inj same)
        have finished : last.finish mode entries = .ok (bookOfEntries title entries) :=
          finish_eq_ok_iff.mpr ⟨ended, closed, title, titled, rfl⟩
        simp only [finished]

end Ledger

end Gamebook.Script
