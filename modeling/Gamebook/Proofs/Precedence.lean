import Gamebook.Proofs.Rejections
import Gamebook.Proofs.Scopes

/-!
# Scopes are checked before fields

Most directives belong to something: a section to a chapter, an item to a section, a
change of state to an open branch or a section.  And most of them need fields.  A
directive that lacks both is reported for the scope, so a report of a missing field
says that the directive stands where it may stand.

The link within a chapter is the one exception.  It takes the id of its chapter from
the scope, then its target from its fields, and only then the section it goes to.
So without a target it is reported for the target, also where no section is current.
The link to any chapter asks for the section first, like all the others.
-/

namespace Gamebook.Script

open Gamebook.Story

/-- What a directive with this keyword goes to is in the scope. -/
def Scope.serves (scope : Scope) : Keyword → Bool
  | .openSection => scope.chapterId.isSome
  | .next | .jump | .item | .openIf => scope.sectionId.isSome
  | .state => scope.condition.isSome || scope.sectionId.isSome
  | .openBook | .openChapter | .openElse | .closeIf => true

/-- The directive is a link within a chapter, without a target and before the first
section of the chapter. -/
structure Scope.Untargeted (scope : Scope) (keyword : Keyword) (fields : List String) : Prop where
  /-- It is a link within a chapter. -/
  isNext : keyword = .next
  /-- It has no target. -/
  bare : fields = []
  /-- There is a chapter. -/
  inChapter : scope.chapterId.isSome
  /-- No section of it is current. -/
  outside : scope.sectionId = none

theorem Keyword.lacking?_next {fields : List String} {argument : String}
    (lacking : Keyword.next.lacking? fields = some argument) : fields = [] := by
  cases fields with
  | nil => rfl
  | cons target label => cases lacking

namespace Ledger

variable {mode : Mode} {ledger : Ledger} {token : Token} {cause : Cause} {keyword : Keyword}
  {fields : List String} {argument : String}

/-- What is asked for before a field is missed, seen in the scope. -/
theorem Admits.serves (admits : ledger.Admits keyword)
    (lacking : keyword.lacking? fields = some argument) :
    ledger.scope.serves keyword = true ∨ ledger.scope.Untargeted keyword fields := by
  cases keyword with
  | next =>
    cases outside : ledger.sectionId with
    | none => exact .inr ⟨rfl, Keyword.lacking?_next lacking, admits, outside⟩
    | some here => exact .inl (by simp [Scope.serves, scope, outside])
  | state =>
    rcases admits with isOpen | inSection
    · exact .inl (by simp [Scope.serves, scope, isOpen])
    · exact .inl (by simp [Scope.serves, scope, inSection])
  | openSection | jump | item | openIf => exact .inl admits
  | openBook | openChapter | openElse | closeIf => exact .inl rfl

/-- A token that is rejected for a missing field has passed the checks before. -/
theorem Rejects.of_missingArgument (rejects : Rejects mode ledger token cause)
    (missing : cause.kind = .missingArgument) :
    ∃ keyword fields argument, token.Reads keyword fields ∧
      keyword.lacking? fields = some argument ∧
      cause = .missingArgument keyword.spelling argument ∧
      (ledger.scope.serves keyword = true ∨ ledger.scope.Untargeted keyword fields) := by
  cases rejects with
  | missingArgument reads admits lacking =>
    exact ⟨_, _, _, reads, lacking, rfl, admits.serves lacking⟩
  | _ => cases missing

end Ledger

/-- A parse that fails for a missing field fails at a directive that lacks it, and the
scope there has what the directive goes to.  The exception is a link within a chapter
that has no target and stands before the first section of the chapter. -/
theorem scope_before_fields {mode : Mode} {tokens : List Token} {error : ParseError}
    (failed : (parse mode tokens).result = .error error)
    (missing : error.kind = .missingArgument) :
    ∃ token keyword fields argument,
      tokens[(parse mode tokens).position]? = some token ∧ error.token = some token ∧
        token.Reads keyword fields ∧ keyword.lacking? fields = some argument ∧
        error.cause = .missingArgument keyword.spelling argument ∧
        error.scope = scopeAt tokens (parse mode tokens).position ∧
        (error.scope.serves keyword = true ∨ error.scope.Untargeted keyword fields) := by
  have stops := stops_of_parse failed
  have told := stops.scope_eq
  generalize (parse mode tokens).position = position at stops told ⊢
  generalize made : (⟨error, position⟩ : Failure) = failure at stops
  cases stops with
  | @violation before ledger entries token cause after ran ready stopped =>
    cases made
    have reached : ledger.position = before.length := Ledger.position_of_run ran ready
    obtain ⟨keyword, fields, argument, reads, lacking, rfl, placed⟩ :=
      (Ledger.rejects_of_step ready stopped).of_missingArgument missing
    refine ⟨token, keyword, fields, argument, ?_, rfl, reads, lacking, rfl, told, placed⟩
    simp [reached]
  | _ =>
    cases made
    cases missing

/-- A branch that goes on into a chapter without sections, where a change of state
lacks its modifier. -/
def unmodifiedState : List Token :=
  [.directive "book" 1, .paragraph "B" 2, .directive "chapter c" 3, .paragraph "C" 4,
    .directive "section s" 5, .paragraph "S" 6, .directive "if x" 7, .directive "chapter d" 8,
    .paragraph "D" 9, .directive "state gold" 10]

/-- The change of state has an open branch to go to, although no section is current. -/
theorem scope_before_unmodified_state :
    ∃ error, (parse .lenient unmodifiedState).result = .error error ∧
      error.kind = .missingArgument ∧ error.token = some (.directive "state gold" 10) ∧
      error.scope = ⟨some "d", none, some "x"⟩ ∧ error.scope.serves .state = true := by
  have failed : (parse .lenient unmodifiedState).result =
      .error ⟨.missingArgument "state" "a modifier", some (.directive "state gold" 10),
        ⟨some "d", none, some "x"⟩⟩ := rfl
  obtain ⟨token, keyword, fields, argument, -, pointed, -, -, cause, -, placed⟩ :=
    scope_before_fields failed rfl
  obtain rfl : keyword = .state :=
    Keyword.spelling_injective (Cause.missingArgument.inj cause).1.symm
  refine ⟨_, failed, rfl, rfl, rfl, ?_⟩
  exact placed.resolve_right fun untargeted => nomatch untargeted.isNext

/-- A chapter without sections, and a directive in it. -/
def sectionlessChapter (text : String) : List Token :=
  [.directive "book" 1, .paragraph "B" 2, .directive "chapter c" 3, .paragraph "C" 4,
    .directive text 5]

/-- A link in the chapter is reported for its missing target, although there is no
section that it could go to.  A link to any chapter that lacks its fields as well is
reported for the section. -/
theorem untargeted_link_before_section :
    (∃ error, (parse .strict (sectionlessChapter ">")).result = .error error ∧
      (parse .strict (sectionlessChapter ">")).position = 4 ∧
      error.token = some (.directive ">" 5) ∧ (Token.directive ">" 5).Reads .next [] ∧
      error.kind = .missingArgument ∧ error.scope.serves .next = false) ∧
    ∃ error, (parse .strict (sectionlessChapter ">>")).result = .error error ∧
      error.kind = .outOfOrder := by
  have reads : (Token.directive ">" 5).Reads .next [] := ⟨rfl, rfl, rfl⟩
  exact ⟨⟨_, rfl, rfl, rfl, reads, rfl, rfl⟩, _, rfl, rfl⟩

end Gamebook.Script
