import Gamebook.Script.Scan
import Gamebook.Script.State

/-!
# Parsing

Each token either violates a rule or moves the state on, and adds at most one
thing to the book.  The first violation ends the parse.

In *strict* mode a branch has to be closed before the next chapter or section
and before the end, and it has at most one alternative.  In *lenient* mode a
branch stays open until it is closed, and its alternative goes to whatever
section is current.
-/

namespace Gamebook.Script

open Gamebook.Story

/-! ## Checks -/

/-- Checks in a row succeed if the first does and the others do with its value. -/
theorem bind_eq_ok_iff {ε α β : Type} {first : Except ε α} {others : α → Except ε β} {b : β} :
    (first >>= others) = .ok b ↔ ∃ a, first = .ok a ∧ others a = .ok b := by
  cases first <;> simp [bind, Except.bind]

/-- The value, or a violation if there is none. -/
def demand {α : Type} (value : Option α) (cause : Cause) : Except Cause α :=
  match value with
  | some value => .ok value
  | none => .error cause

/-- A violation if the condition holds. -/
def forbid (condition : Bool) (cause : Cause) : Except Cause Unit :=
  if condition then .error cause else .ok ()

@[simp] theorem demand_eq_ok_iff {α : Type} {value : Option α} {cause : Cause} {a : α} :
    demand value cause = .ok a ↔ value = some a := by
  cases value <;> simp [demand]

@[simp] theorem demand_eq_error_iff {α : Type} {value : Option α} {cause found : Cause} :
    demand value cause = .error found ↔ value = none ∧ cause = found := by
  cases value <;> simp [demand]

@[simp] theorem forbid_eq_ok_iff {condition : Bool} {cause : Cause} {u : Unit} :
    forbid condition cause = .ok u ↔ condition = false := by
  cases condition <;> simp [forbid]

@[simp] theorem forbid_eq_error_iff {condition : Bool} {cause found : Cause} :
    forbid condition cause = .error found ↔ condition = true ∧ cause = found := by
  cases condition <;> simp [forbid]

/-- A directive that comes before the first heading it needs. -/
def Cause.misplaced (keyword antecedent : Keyword) : Cause :=
  .outOfOrder (quoted keyword.spelling) antecedent.spelling

/-- The field with this index, which the directive has to have. -/
def Directive.demandField (directive : Directive) (index : Nat) (argument : String) :
    Except Cause String :=
  demand (directive.field? index) (.missingArgument directive.name argument)

/-- In strict mode, no chapter or section begins while a branch is open. -/
def State.checkClosed (state : State) (mode : Mode) (heading : Keyword) : Except Cause Unit :=
  match mode, state.openCondition? with
  | .strict, some condition => .error (.openAtHeading heading condition)
  | _, _ => .ok ()

/-- The directive that the token is read as. -/
def Token.reading (token : Token) : Directive := Directive.ofText token.text token.line

/-- Before the book, only the book itself may come.  A name outside of the
vocabulary is not a violation of this rule but of another. -/
def State.checkBookFirst (state : State) (token : Token) : Except Cause Unit :=
  match state.book, token.kind with
  | some _, _ => .ok ()
  | none, .paragraph => .error (.beforeBook "text")
  | none, .directive =>
    match token.reading.keyword? with
    | some .openBook => .ok ()
    | some keyword => .error (.beforeBook (quoted keyword.spelling))
    | none => .ok ()

/-! ## Directives -/

/-- The word is `remove`, in whatever case. -/
def isRemove (word : String) : Bool := word.toList.map Char.toLower = "remove".toList

/-- The leaf of an item directive. -/
def itemLeaf (directive : Directive) : Except Cause Leaf := do
  let first ← directive.demandField 0 "an item id"
  if isRemove first then
    return .removeItem (← directive.demandField 1 "an item id after \"remove\"")
  else
    return .addItem first

/-- The step of a directive whose keyword is known.  The order of the checks
decides which violation is reported. -/
def directiveStep (mode : Mode) (state : State) (token : Token) (directive : Directive) :
    Keyword → Except Cause State
  | .openBook => do
    forbid state.book.isSome .duplicateBook
    return state.await .ofBook token
  | .openChapter => do
    state.checkClosed mode .openChapter
    let id ← directive.demandField 0 "a chapter id"
    return state.await (.ofChapter id) token
  | .openSection => do
    forbid state.chapterAt.isNone (.misplaced .openSection .openChapter)
    state.checkClosed mode .openSection
    let id ← directive.demandField 0 "a section id"
    return state.await (.ofSection id) token
  | .next => do
    let chapter ← demand state.chapter? (.misplaced .next .openChapter)
    let target ← directive.demandField 0 "a target section id"
    let state ← demand (state.pushLink? ⟨directive.rest 1, chapter.id, target⟩)
      (.misplaced .next .openSection)
    return state.advance
  | .jump => do
    forbid state.sectionAt.isNone (.misplaced .jump .openSection)
    let chapterId ← directive.demandField 0 "a target chapter id"
    let target ← directive.demandField 1 "a target section id"
    let state ← demand (state.pushLink? ⟨directive.rest 2, chapterId, target⟩)
      (.misplaced .jump .openSection)
    return state.advance
  | .state => do
    forbid (!state.hasContainer) (.misplaced .state .openSection)
    let id ← directive.demandField 0 "a state id"
    let modifier ← directive.demandField 1 "a modifier"
    let state ← demand (state.pushElement? (.leaf (.state id modifier)))
      (.misplaced .state .openSection)
    return state.advance
  | .item => do
    forbid state.sectionAt.isNone (.misplaced .item .openSection)
    let leaf ← itemLeaf directive
    let state ← demand (state.pushElement? (.leaf leaf)) (.misplaced .item .openSection)
    return state.advance
  | .openIf => do
    forbid state.openIf.isSome .nestedIf
    let chapterAt ← demand state.chapterAt (.misplaced .openIf .openSection)
    let sectionAt ← demand state.sectionAt (.misplaced .openIf .openSection)
    let condition := directive.rest 0
    forbid condition.isEmpty (.missingArgument Keyword.openIf.spelling "a condition")
    return (state.beginIf chapterAt sectionAt condition token).advance
  | .openElse => do
    forbid state.openIf.isNone .strayElse
    let condition := state.openCondition?.getD ""
    forbid (mode = .strict && state.openElse.isSome) (.secondElse condition)
    let chapterAt ← demand state.chapterAt (.misplaced .openElse .openSection)
    let sectionAt ← demand state.sectionAt (.misplaced .openElse .openSection)
    return (state.beginElse chapterAt sectionAt condition).advance
  | .closeIf => do
    forbid state.openIf.isNone .strayEndif
    return state.endIf.advance

/-! ## Steps -/

/-- The step of a directive that is no title. -/
def commandStep (mode : Mode) (state : State) (token : Token) : Except Cause State := do
  let keyword ← demand token.reading.keyword? (.unknownDirective token.reading.name)
  directiveStep mode state token token.reading keyword

/-- The step of a paragraph that is no title. -/
def paragraphStep (state : State) (text : String) : Except Cause State := do
  let state ← demand (state.pushElement? (.leaf (.paragraph text)))
    (.outOfOrder "text" Keyword.openSection.spelling)
  return state.advance

/-- What the token does to the state. -/
def step (mode : Mode) (state : State) (token : Token) : Except Cause State :=
  match state.pending, token.kind with
  | some pending, .paragraph => .ok (state.entitle pending.heading token.text)
  | some pending, .directive => .error (.missingTitle pending.heading.keyword)
  | none, .paragraph => do
    state.checkBookFirst token
    paragraphStep state token.text
  | none, .directive => do
    state.checkBookFirst token
    commandStep mode state token

/-! ## Runs -/

/-- A violation with the position at which parsing stopped. -/
structure Failure where
  /-- The violation. -/
  error : ParseError
  /-- The index of the token that could not be done with. -/
  position : Nat
  deriving DecidableEq, Repr

/-- A violation in a state, pointing at a token. -/
def State.failure (state : State) (cause : Cause) (token : Token) : Failure :=
  ⟨⟨cause, some token, state.scope⟩, state.position⟩

/-- Goes through the tokens. -/
def run (mode : Mode) : State → List Token → Except Failure State
  | state, [] => .ok state
  | state, token :: rest =>
    match step mode state token with
    | .error cause => .error (state.failure cause token)
    | .ok state => run mode state rest

/-- A run over two lists of tokens is a run over the first and, from the state
it leaves, a run over the second. -/
theorem run_append (mode : Mode) (state : State) (before after : List Token) :
    run mode state (before ++ after) =
      match run mode state before with
      | .error failure => .error failure
      | .ok middle => run mode middle after := by
  induction before generalizing state with
  | nil => rfl
  | cons token rest ih =>
    cases stepped : step mode state token with
    | error cause => simp [run, stepped]
    | ok next => simp [run, stepped, ih]

/-- The end of the tokens.  A heading has to have its title, in strict mode a
branch has to be closed, and there has to be a book. -/
def finish (mode : Mode) (state : State) : Except Failure Book :=
  match state.pending with
  | some pending =>
    .error (state.failure (.missingTitle pending.heading.keyword) pending.token)
  | none =>
    if mode = .strict && state.openIf.isSome then
      .error ⟨⟨.neverClosed (state.openCondition?.getD ""), state.opener, state.scope⟩,
        state.position⟩
    else
      match state.book with
      | some book => .ok book
      | none => .error ⟨.ofCause .missingBook, state.position⟩

/-! ## Outcomes -/

/-- What a parse gives: a book or an error, and how far it came. -/
structure Outcome where
  /-- The book or the first violation. -/
  result : Except ParseError Book
  /-- The number of tokens done with. -/
  position : Nat

/-- The book of the tokens, or the first violation. -/
def parse (mode : Mode) (tokens : List Token) : Outcome :=
  if tokens = [] then ⟨.error (.ofCause .emptyInput), 0⟩
  else
    match run mode .initial tokens with
    | .error failure => ⟨.error failure.error, failure.position⟩
    | .ok state =>
      match finish mode state with
      | .error failure => ⟨.error failure.error, failure.position⟩
      | .ok book => ⟨.ok book, state.position⟩

/-- The book of a script, or the first violation. -/
def parseText (mode : Mode) (marker : Marker) (script : String) : Outcome :=
  parse mode (tokens marker script)

end Gamebook.Script
