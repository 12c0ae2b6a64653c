import Gamebook.Proofs.Moves
import Gamebook.Proofs.Simulation

/-!
# Validation without a book

Whether tokens are a script does not depend on any text but on the *shapes* of
the tokens: the kind, the keyword, how many fields there are, and whether the
first is the word `remove`.  A *validation* goes through the shapes with five
flags: there is a book, there is a chapter, a section of it is current, a branch
is open, and it has an alternative.  It has neither a book nor pointers into
one, and a heading looks ahead at the next token instead of waiting for it.

Validating the shapes accepts what parsing accepts, and otherwise it fails with
the same category at the same position.  The flags are read off a ledger
(`Ledger.flags`), and each check of a ledger is one of the flags
(`Flags.directive_matches`, `Flags.token_matches`).  So a run of the flags
follows a run of the ledger (`Flags.run_matches`).
-/

namespace Gamebook.Script

open Gamebook.Story

/-! ## Shapes -/

/-- What a validation sees of a token. -/
structure Shape where
  /-- Directive or paragraph. -/
  kind : TokenKind
  /-- The keyword, if the token is read as a directive of the vocabulary. -/
  keyword : Option Keyword
  /-- How many fields there are. -/
  fieldCount : Nat
  /-- The first field is `remove`, in whatever case. -/
  removes : Bool
  deriving DecidableEq, Repr

/-- The shape of the token. -/
def Token.shape (token : Token) : Shape :=
  ⟨token.kind, token.reading.keyword?, token.reading.fields.length,
    token.reading.fields.head?.any isRemove⟩

/-- The token is a directive that needs a title. -/
def Shape.isHeading (shape : Shape) : Bool :=
  shape.kind = .directive && shape.keyword.any (·.isHeading)

/-! ## Flags -/

/-- What a validation remembers. -/
structure Flags where
  /-- There is a book. -/
  hasBook : Bool
  /-- There is a chapter. -/
  hasChapter : Bool
  /-- A section of the last chapter is current. -/
  inSection : Bool
  /-- A branch is open. -/
  ifOpen : Bool
  /-- The open branch has an alternative. -/
  elseOpen : Bool
  deriving DecidableEq, Repr

/-- A violation unless the condition holds. -/
def ensure (condition : Bool) (kind : ErrorKind) : Except ErrorKind Unit :=
  if condition then .ok () else .error kind

/-- An item has an id, and another one after the word `remove`. -/
def Shape.checkItem (shape : Shape) : Except ErrorKind Unit := do
  ensure (1 ≤ shape.fieldCount) .missingArgument
  ensure (!shape.removes || 2 ≤ shape.fieldCount) .missingArgument

namespace Flags

/-- Nothing has been seen. -/
def initial : Flags := ⟨false, false, false, false, false⟩

/-- There is something that elements can go to. -/
def hasContainer (flags : Flags) : Bool := flags.elseOpen || flags.ifOpen || flags.inSection

/-- In strict mode, no chapter or section begins while a branch is open. -/
def mayLeave (flags : Flags) (mode : Mode) : Bool := !(mode = .strict && flags.ifOpen)

/-- The checks of a directive, in order, and the flags after it.  A heading has
its title still to be checked. -/
def directive (mode : Mode) (flags : Flags) (shape : Shape) : Keyword → Except ErrorKind Flags
  | .openBook => do
    ensure (!flags.hasBook) .duplicateBook
    return { flags with hasBook := true }
  | .openChapter => do
    ensure (flags.mayLeave mode) .unclosedConditional
    ensure (1 ≤ shape.fieldCount) .missingArgument
    return { flags with hasChapter := true, inSection := false }
  | .openSection => do
    ensure flags.hasChapter .outOfOrder
    ensure (flags.mayLeave mode) .unclosedConditional
    ensure (1 ≤ shape.fieldCount) .missingArgument
    return { flags with inSection := true }
  | .next => do
    ensure flags.hasChapter .outOfOrder
    ensure (1 ≤ shape.fieldCount) .missingArgument
    ensure flags.inSection .outOfOrder
    return flags
  | .jump => do
    ensure flags.inSection .outOfOrder
    ensure (1 ≤ shape.fieldCount) .missingArgument
    ensure (2 ≤ shape.fieldCount) .missingArgument
    return flags
  | .state => do
    ensure flags.hasContainer .outOfOrder
    ensure (1 ≤ shape.fieldCount) .missingArgument
    ensure (2 ≤ shape.fieldCount) .missingArgument
    return flags
  | .item => do
    ensure flags.inSection .outOfOrder
    shape.checkItem
    return flags
  | .openIf => do
    ensure (!flags.ifOpen) .unbalancedConditional
    ensure (flags.hasChapter && flags.inSection) .outOfOrder
    ensure (1 ≤ shape.fieldCount) .missingArgument
    return { flags with ifOpen := true }
  | .openElse => do
    ensure flags.ifOpen .unbalancedConditional
    ensure (!(mode = .strict && flags.elseOpen)) .unbalancedConditional
    ensure (flags.hasChapter && flags.inSection) .outOfOrder
    return { flags with elseOpen := true }
  | .closeIf => do
    ensure flags.ifOpen .unbalancedConditional
    return { flags with ifOpen := false, elseOpen := false }

/-- The checks of a token that is no title, in order, and the flags after it. -/
def token (mode : Mode) (flags : Flags) (shape : Shape) : Except ErrorKind Flags :=
  match shape.kind, shape.keyword with
  | .paragraph, _ => do
    ensure flags.hasBook .missingBook
    ensure flags.hasContainer .outOfOrder
    return flags
  | .directive, none => .error .unknownDirective
  | .directive, some keyword => do
    ensure (flags.hasBook || keyword = .openBook) .missingBook
    flags.directive mode shape keyword

/-- Goes through the shapes from a position on.  A heading takes its title with
it. -/
def run (mode : Mode) (flags : Flags) (position : Nat) :
    List Shape → Except (ErrorKind × Nat) (Flags × Nat)
  | [] => .ok (flags, position)
  | shape :: rest =>
    match flags.token mode shape with
    | .error kind => .error (kind, position)
    | .ok flags =>
      match shape.isHeading, rest with
      | false, rest => run mode flags (position + 1) rest
      | true, [] => .error (.missingTitle, position)
      | true, title :: rest =>
        match title.kind with
        | .paragraph => run mode flags (position + 2) rest
        | .directive => .error (.missingTitle, position)

/-- The end of the shapes. -/
def finish (mode : Mode) (flags : Flags) (position : Nat) : Except (ErrorKind × Nat) Unit :=
  if mode = .strict && flags.ifOpen then .error (.unclosedConditional, position)
  else if flags.hasBook then .ok ()
  else .error (.missingBook, position)

end Flags

/-- Accepts the shapes, or gives the category and the position of the first
violation. -/
def validate (mode : Mode) (shapes : List Shape) : Except (ErrorKind × Nat) Unit :=
  if shapes = [] then .error (.emptyInput, 0)
  else
    match Flags.run mode .initial 0 shapes with
    | .error failure => .error failure
    | .ok (flags, position) => flags.finish mode position

/-- Whether there is a book, or else the category and the position of the
violation. -/
def Outcome.verdict (outcome : Outcome) : Except (ErrorKind × Nat) Unit :=
  match outcome.result with
  | .ok _ => .ok ()
  | .error error => .error (error.kind, outcome.position)

/-! ## Flags of a ledger -/

namespace Ledger

/-- The flags, read off a ledger. -/
def flags (ledger : Ledger) : Flags :=
  ⟨ledger.title.isSome, ledger.chapterId.isSome, ledger.sectionId.isSome, ledger.branch.isSome,
    ledger.branch.any (·.hasElse)⟩

/-- The next ledger has these flags.  After a heading it has them once the title
has come. -/
def Reaches (ledger next : Ledger) (flags : Flags) : (isHeading : Bool) → Prop
  | false => next.pending = none ∧ next.position = ledger.position + 1 ∧ next.flags = flags
  | true => next.position = ledger.position ∧ ∃ pending, next.pending = some pending ∧
      ∀ title, (next.entitle pending.heading title).1.flags = flags

/-- A current section, and one that waits for its title, is in a chapter. -/
structure Nested (ledger : Ledger) : Prop where
  /-- A current section has a chapter. -/
  current : ledger.sectionId.isSome → ledger.chapterId.isSome
  /-- A section that waits for its title has a chapter. -/
  waiting : ∀ id token, ledger.pending = some ⟨.ofSection id, token⟩ → ledger.chapterId.isSome

variable {ledger : Ledger}

theorem hasContainer_flags :
    ledger.flags.hasContainer = !(ledger.branch.isNone && ledger.sectionId.isNone) := by
  cases opened : ledger.branch <;> cases current : ledger.sectionId <;>
    simp [flags, Flags.hasContainer, opened, current]

end Ledger

/-! ## Checks that match -/

/-- Two checks fail with the same category, or both succeed with related values. -/
inductive Matches {α β : Type} (Related : α → β → Prop) :
    Except Cause α → Except ErrorKind β → Prop where
  /-- Both fail. -/
  | error (cause : Cause) : Matches Related (.error cause) (.error cause.kind)
  /-- Both succeed. -/
  | ok {a : α} {b : β} (related : Related a b) : Matches Related (.ok a) (.ok b)

namespace Matches

variable {α β γ δ : Type} {Related : α → β → Prop} {Goal : γ → δ → Prop}

theorem bind {first : Except Cause α} {second : Except ErrorKind β} {others : α → Except Cause γ}
    {rest : β → Except ErrorKind δ} (begins : Matches Related first second)
    (goesOn : ∀ a b, Related a b → Matches Goal (others a) (rest b)) :
    Matches Goal (first >>= others) (second >>= rest) := by
  cases begins with
  | error cause => exact .error cause
  | ok related => exact goesOn _ _ related

theorem forbid {refused held : Bool} {cause : Cause} (opposite : refused = !held) :
    Matches (fun _ _ => held = true) (forbid refused cause) (ensure held cause.kind) := by
  subst opposite
  cases held with
  | false => exact .error cause
  | true => exact .ok rfl

theorem demand {value : Option α} {held : Bool} {cause : Cause} (same : value.isSome = held) :
    Matches (fun a _ => value = some a) (demand value cause) (ensure held cause.kind) := by
  subst same
  cases value with
  | none => exact .error cause
  | some a => exact .ok rfl

variable {token : Token} {ledger : Ledger} {mode : Mode}

/-- There is a field with an index exactly when there are more fields. -/
theorem demandField (index : Nat) (argument : String) :
    Matches (fun field _ => token.reading.fields[index]? = some field)
      (token.reading.demandField index argument)
      (ensure (index + 1 ≤ token.shape.fieldCount) .missingArgument) := by
  have within : token.reading.fields[index]?.isSome = true ↔
      index < token.reading.fields.length := by simp
  refine .demand ?_
  rw [Bool.eq_iff_iff, decide_eq_true_eq]
  exact within

theorem checkClosed (heading : Keyword) :
    Matches (fun _ _ => True) (ledger.checkClosed mode heading)
      (ensure (ledger.flags.mayLeave mode) .unclosedConditional) := by
  cases opened : ledger.branch <;> cases mode <;>
    simp only [Ledger.checkClosed, opened, Flags.mayLeave, Ledger.flags]
  case some.strict branch => exact .error (.openAtHeading heading branch.condition)
  all_goals exact .ok trivial

/-- The leaf of an item needs its id, and the word `remove` is none. -/
theorem checkItem :
    Matches (fun _ _ => True) (itemLeaf token.reading) token.shape.checkItem := by
  refine .bind (.demandField 0 _) fun first _ found => ?_
  have removes : token.shape.removes = isRemove first := by
    simp [Token.shape, List.head?_eq_getElem?, found]
  rw [removes]
  cases isRemove first with
  | false => exact .ok trivial
  | true =>
    have last (held : Bool) : ensure (!true || held) .missingArgument =
        (ensure held .missingArgument >>= fun _ => .ok ()) := by cases held <;> rfl
    rw [last]
    exact .bind (.demandField 1 _) fun _ _ _ => .ok trivial

/-- The condition of a branch is empty exactly when there are no fields. -/
theorem condition {cause : Cause} (sameKind : cause.kind = .missingArgument) :
    Matches (fun _ _ => decide (1 ≤ token.shape.fieldCount) = true)
      (Script.forbid (token.reading.rest 0).isEmpty cause)
      (ensure (1 ≤ token.shape.fieldCount) .missingArgument) := by
  have given : (token.reading.rest 0).isEmpty = false ↔ 1 ≤ token.shape.fieldCount := by
    rw [rest_zero_isEmpty_iff, ← List.ne_nil_iff_exists_cons, ← List.length_pos_iff]
    exact Iff.rfl
  have opposite : (token.reading.rest 0).isEmpty = !decide (1 ≤ token.shape.fieldCount) := by
    cases empty : (token.reading.rest 0).isEmpty <;> simp [← given, empty]
  rw [← sameKind]
  exact .forbid opposite

end Matches

section Steps

variable {mode : Mode} {ledger next : Ledger} {token : Token} {entry : Option Entry}

/-- A directive that adds something leaves the flags as they are. -/
theorem Ledger.reaches_advance (ready : ledger.pending = none) :
    ledger.Reaches ledger.advance ledger.flags false :=
  ⟨ready, rfl, rfl⟩

/-- Each check of a directive is one of the flags. -/
theorem Flags.directive_matches (ready : ledger.pending = none) (nested : ledger.Nested)
    (keyword : Keyword) :
    Matches (fun moved flags => ledger.Reaches moved.1 flags keyword.isHeading)
      (Ledger.directiveStep mode ledger token token.reading keyword)
      (Flags.directive mode ledger.flags token.shape keyword) := by
  have inChapter :
      (ledger.flags.hasChapter && ledger.flags.inSection) = ledger.sectionId.isSome := by
    cases current : ledger.sectionId with
    | none => simp [Ledger.flags, current]
    | some id => simp [Ledger.flags, current, nested.current (by simp [current])]
  have noSection : ledger.sectionId.isNone = !ledger.flags.inSection := by
    simp [Ledger.flags]
  cases keyword with
  | openBook =>
    refine .bind (.forbid (by simp [Ledger.flags])) ?_
    intro _ _ _
    exact .ok ⟨rfl, _, rfl, fun _ => rfl⟩
  | openChapter =>
    refine .bind (.checkClosed _) fun _ _ _ => .bind (.demandField 0 _) fun id _ _ => ?_
    exact .ok ⟨rfl, _, rfl, fun _ => rfl⟩
  | openSection =>
    refine .bind (.forbid (by simp [Ledger.flags])) fun _ _ _ => ?_
    refine .bind (.checkClosed _) fun _ _ _ => .bind (.demandField 0 _) fun id _ _ => ?_
    exact .ok ⟨rfl, _, rfl, fun _ => rfl⟩
  | next =>
    refine .bind (.demand (by simp [Ledger.flags])) fun _ _ _ => ?_
    refine .bind (.demandField 0 _) fun _ _ _ => .bind (.forbid noSection) fun _ _ _ => ?_
    exact .ok (Ledger.reaches_advance ready)
  | jump =>
    refine .bind (.forbid noSection) fun _ _ _ => .bind (.demandField 0 _) fun _ _ _ => ?_
    refine .bind (.demandField 1 _) fun _ _ _ => ?_
    exact .ok (Ledger.reaches_advance ready)
  | state =>
    refine .bind (.forbid (by rw [Ledger.hasContainer_flags, Bool.not_not])) fun _ _ _ => ?_
    refine .bind (.demandField 0 _) fun _ _ _ => .bind (.demandField 1 _) fun _ _ _ => ?_
    exact .ok (Ledger.reaches_advance ready)
  | item =>
    refine .bind (.forbid noSection) fun _ _ _ => .bind .checkItem fun _ _ _ => ?_
    exact .ok (Ledger.reaches_advance ready)
  | openIf =>
    refine .bind (.forbid (by simp [Ledger.flags])) fun _ _ closed => ?_
    refine .bind (.forbid (by simp [inChapter])) fun _ _ _ => ?_
    refine .bind (.condition rfl) fun _ _ _ => ?_
    have unopened : ledger.branch = none := by simpa [Ledger.flags] using closed
    exact .ok ⟨ready, rfl, by simp [Ledger.flags, Ledger.beginIf, Ledger.advance, unopened]⟩
  | openElse =>
    refine .bind (.demand (by simp [Ledger.flags])) fun branch _ isOpen => ?_
    refine .bind (.forbid (by simp [Ledger.flags, isOpen])) fun _ _ _ => ?_
    refine .bind (.forbid (by simp [inChapter])) fun _ _ _ => ?_
    exact .ok ⟨ready, rfl, by simp [Ledger.flags, Ledger.beginElse, Ledger.advance, isOpen]⟩
  | closeIf =>
    refine .bind (.forbid (by simp [Ledger.flags])) fun _ _ _ => ?_
    exact .ok ⟨ready, rfl, rfl⟩

/-- Each check of a token is one of the flags. -/
theorem Flags.token_matches (ready : ledger.pending = none) (nested : ledger.Nested) :
    Matches (fun moved flags => ledger.Reaches moved.1 flags token.shape.isHeading)
      (Ledger.step mode ledger token) (Flags.token mode ledger.flags token.shape) := by
  cases kind : token.kind with
  | paragraph =>
    have plain : token.shape.isHeading = false := by simp [Shape.isHeading, Token.shape, kind]
    rw [plain]
    simp only [Ledger.step, ready, kind, Ledger.paragraphStep, Flags.token, Token.shape]
    refine .bind (.forbid (by simp [Ledger.flags])) fun _ _ _ => ?_
    refine .bind (.forbid (by rw [Ledger.hasContainer_flags, Bool.not_not])) fun _ _ _ => ?_
    exact .ok (Ledger.reaches_advance ready)
  | directive =>
    cases known : token.reading.keyword? with
    | none =>
      simp only [Ledger.step, ready, kind, Ledger.commandStep, Flags.token, Token.shape, known]
      exact .error _
    | some keyword =>
      have same : token.shape.isHeading = keyword.isHeading := by
        simp [Shape.isHeading, Token.shape, kind, known]
      rw [same]
      simp only [Ledger.step, ready, kind, Ledger.commandStep, known]
      have shapes : Flags.token mode ledger.flags token.shape =
          (ensure (ledger.flags.hasBook || keyword = .openBook) .missingBook >>= fun _ =>
            directive mode ledger.flags token.shape keyword) := by
        simp only [Flags.token, Token.shape, kind, known]
      rw [shapes]
      show Matches _ (forbid _ _ >>= fun _ =>
        Ledger.directiveStep mode ledger token token.reading keyword) _
      refine .bind (.forbid (by simp [Ledger.flags])) fun _ _ _ => ?_
      exact directive_matches ready nested keyword

theorem Ledger.Moves.nested (moves : Moves mode ledger token next entry)
    (nested : ledger.Nested) : next.Nested := by
  cases moves with
  | @title pending waiting isParagraph =>
    obtain ⟨heading, opening⟩ := pending
    cases heading with
    | ofBook => exact ⟨nested.current, nofun⟩
    | ofChapter id => exact ⟨nofun, nofun⟩
    | ofSection id => exact ⟨fun _ => nested.waiting id opening waiting, nofun⟩
  | openBook => exact ⟨nested.current, nofun⟩
  | openChapter => exact ⟨nested.current, nofun⟩
  | openSection takes inChapter => exact ⟨nested.current, fun _ _ _ => inChapter⟩
  | _ => exact ⟨nested.current, nested.waiting⟩

end Steps

/-! ## Runs that match -/

/-- What a run of the ledger is for a validation. -/
def Ledger.ends (outcome : Except Failure (Ledger × List Entry)) :
    Except (ErrorKind × Nat) (Flags × Nat) :=
  match outcome with
  | .error failure => .error (failure.error.kind, failure.position)
  | .ok (last, _) =>
    match last.pending with
    | none => .ok (last.flags, last.position)
    | some _ => .error (.missingTitle, last.position)

theorem Ledger.ends_cons {mode : Mode} {ledger next : Ledger} {token : Token}
    {entry : Option Entry} (stepped : step mode ledger token = .ok (next, entry))
    (rest : List Token) :
    ends (run mode ledger (token :: rest)) = ends (run mode next rest) := by
  simp only [run, stepped]
  cases run mode next rest <;> rfl

/-- A run of the flags follows a run of the ledger. -/
theorem Flags.run_matches {mode : Mode} {ledger : Ledger} (ready : ledger.pending = none)
    (nested : ledger.Nested) (tokens : List Token) :
    Flags.run mode ledger.flags ledger.position (tokens.map Token.shape) =
      Ledger.ends (Ledger.run mode ledger tokens) := by
  match tokens with
  | [] => simp only [List.map_nil, Flags.run, Ledger.run, Ledger.ends, ready]
  | token :: rest =>
    have agrees : Matches _ (Ledger.step mode ledger token) _ := token_matches ready nested
    simp only [List.map_cons, Flags.run]
    generalize stepped : Ledger.step mode ledger token = outcome at agrees
    generalize Flags.token mode ledger.flags token.shape = checked at agrees
    cases agrees with
    | error cause =>
      simp only [Ledger.run, stepped]
      rfl
    | @ok moved flags reaches =>
      obtain ⟨next, entry⟩ := moved
      replace reaches : ledger.Reaches next flags token.shape.isHeading := reaches
      rw [Ledger.ends_cons stepped]
      have nextNested := (Ledger.step_eq_ok_iff.mp stepped).nested nested
      cases heading : token.shape.isHeading with
      | false =>
        rw [heading] at reaches
        obtain ⟨nextReady, moved, rfl⟩ := reaches
        rw [← moved]
        exact run_matches nextReady nextNested rest
      | true =>
        rw [heading] at reaches
        obtain ⟨same, pending, waiting, later⟩ := reaches
        -- The heading and what comes after it are read in one step here.
        match rest with
        | [] => simp only [List.map_nil, Ledger.run, Ledger.ends, waiting, same]
        | title :: rest =>
          have seen : title.shape.kind = title.kind := rfl
          cases kind : title.kind with
          | directive =>
            simp only [List.map_cons, seen, kind, Ledger.run, Ledger.step, waiting, ← same]
            rfl
          | paragraph =>
            have moves : Ledger.Moves mode next title _ _ := .title waiting kind
            have ready := next.entitle_pending pending.heading title.text
            rw [Ledger.ends_cons moves.step_eq, ← run_matches ready (moves.nested nextNested) rest,
              later, Ledger.entitle_position, same]
            simp only [List.map_cons, seen, kind]
termination_by tokens.length

theorem initial_nested : Ledger.initial.Nested := ⟨nofun, nofun⟩

/-- The end of the flags is that of the ledger. -/
theorem Flags.finish_matches {mode : Mode} {last : Ledger} (ready : last.pending = none)
    (entries : List Entry) :
    Flags.finish mode last.flags last.position =
      match last.finish mode entries with
      | .error failure => .error (failure.error.kind, failure.position)
      | .ok _ => .ok () := by
  cases opened : last.branch <;> cases titled : last.title <;> cases mode <;>
    simp only [Flags.finish, Ledger.flags, Ledger.finish, ready, opened, titled] <;> rfl

/-- Validating the shapes of the tokens has the verdict of parsing them: both
succeed, or both fail with the same category at the same position. -/
theorem validate_shapes (mode : Mode) (tokens : List Token) :
    validate mode (tokens.map Token.shape) = (parse mode tokens).verdict := by
  have agrees : Flags.run mode .initial 0 (tokens.map Token.shape) =
      Ledger.ends (Ledger.run mode .initial tokens) := Flags.run_matches rfl initial_nested tokens
  rw [parse_eq_ledger_parse]
  simp only [validate, Ledger.parse, List.map_eq_nil_iff, agrees]
  split
  · rfl
  · cases Ledger.run mode .initial tokens with
    | error failure => rfl
    | ok ended =>
      obtain ⟨last, entries⟩ := ended
      cases waiting : last.pending with
      | some pending => simp only [Ledger.ends, Ledger.finish, waiting]; rfl
      | none =>
        simp only [Ledger.ends, waiting, Flags.finish_matches waiting entries]
        cases last.finish mode entries <;> rfl

end Gamebook.Script
