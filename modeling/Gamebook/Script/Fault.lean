import Gamebook.Script.Directive
import Gamebook.Script.Token

/-!
# Faults of a script

Parsing stops at the first violation.  A *cause* is what was violated, with the
words that its message quotes.  A *parse error* is a cause with the token it
points at, if there is one, and the *scope*, the place in the book that parsing
had reached.

Every wording is in this module.
-/

namespace Gamebook.Script

/-- The text between double quotes. -/
def quoted (text : String) : String := "\"" ++ text ++ "\""

/-! ## Kinds -/

/-- The categories of faults. -/
inductive ErrorKind where
  /-- There are no tokens. -/
  | emptyInput
  /-- There is no book, or not at the start. -/
  | missingBook
  /-- There is a second book. -/
  | duplicateBook
  /-- Something stands before the scope it needs. -/
  | outOfOrder
  /-- A branch is opened twice, or continued or closed without being open. -/
  | unbalancedConditional
  /-- A branch is still open where it has to be closed. -/
  | unclosedConditional
  /-- A heading is not followed by a paragraph. -/
  | missingTitle
  /-- A directive has too few fields. -/
  | missingArgument
  /-- A directive is not in the vocabulary. -/
  | unknownDirective
  deriving DecidableEq, Repr

namespace ErrorKind

/-- Every category. -/
def all : List ErrorKind :=
  [emptyInput, missingBook, duplicateBook, outOfOrder, unbalancedConditional,
   unclosedConditional, missingTitle, missingArgument, unknownDirective]

/-- The name of the category in reports. -/
def name : ErrorKind → String
  | emptyInput => "EmptyInput"
  | missingBook => "MissingBook"
  | duplicateBook => "DuplicateBook"
  | outOfOrder => "OutOfOrder"
  | unbalancedConditional => "UnbalancedConditional"
  | unclosedConditional => "UnclosedConditional"
  | missingTitle => "MissingTitle"
  | missingArgument => "MissingArgument"
  | unknownDirective => "UnknownDirective"

/-- The category with this name. -/
def ofName? (name : String) : Option ErrorKind := all.find? (·.name = name)

/-- The fault is one of order or balance and not of the input as a whole. -/
def isStructural : ErrorKind → Bool
  | duplicateBook | outOfOrder | unbalancedConditional | unclosedConditional => true
  | _ => false

end ErrorKind

/-! ## Causes -/

/-- What a script violates. -/
inductive Cause where
  /-- There are no tokens. -/
  | emptyInput
  /-- The tokens end without a book. -/
  | missingBook
  /-- Something other than the book comes first. -/
  | beforeBook (what : String)
  /-- The book is opened again. -/
  | duplicateBook
  /-- Something comes before the first heading it needs. -/
  | outOfOrder (what antecedent : String)
  /-- The name of a directive is not in the vocabulary. -/
  | unknownDirective (name : String)
  /-- A directive lacks a field. -/
  | missingArgument (command argument : String)
  /-- A heading has no title. -/
  | missingTitle (heading : Keyword)
  /-- A branch is opened inside of a branch. -/
  | nestedIf
  /-- An alternative without an open branch. -/
  | strayElse
  /-- A second alternative for the open branch. -/
  | secondElse (condition : String)
  /-- The end of a branch without an open one. -/
  | strayEndif
  /-- A heading while a branch is open. -/
  | openAtHeading (heading : Keyword) (condition : String)
  /-- The tokens end while a branch is open. -/
  | neverClosed (condition : String)
  /-- A fault worded by the caller. -/
  | custom (kind : ErrorKind) (message : String)
  deriving DecidableEq, Repr

namespace Cause

/-- The category of the cause. -/
def kind : Cause → ErrorKind
  | emptyInput => .emptyInput
  | missingBook | beforeBook _ => .missingBook
  | duplicateBook => .duplicateBook
  | outOfOrder _ _ => .outOfOrder
  | unknownDirective _ => .unknownDirective
  | missingArgument _ _ => .missingArgument
  | missingTitle _ => .missingTitle
  | nestedIf | strayElse | secondElse _ | strayEndif => .unbalancedConditional
  | openAtHeading _ _ | neverClosed _ => .unclosedConditional
  | custom kind _ => kind

/-- The wording of the cause. -/
def message : Cause → String
  | emptyInput => "no tokens to parse"
  | missingBook => "no \"book\" directive found"
  | beforeBook what => "found " ++ what ++ " before \"book\""
  | duplicateBook => "found a second \"book\" directive"
  | outOfOrder what antecedent => "found " ++ what ++ " before first " ++ quoted antecedent
  | unknownDirective name =>
    if name = "" then "empty directive" else "unknown directive " ++ quoted name
  | missingArgument command argument => quoted command ++ " needs " ++ argument
  | missingTitle heading =>
    quoted heading.spelling ++ " needs a title as text after the directive"
  | nestedIf => "found another \"if\" before \"endif\""
  | strayElse => "found \"else\" before \"if\""
  | secondElse condition => "found a second \"else\" for " ++ quoted ("if " ++ condition)
  | strayEndif => "found \"endif\" before \"if\""
  | openAtHeading heading condition =>
    "found " ++ quoted heading.spelling ++ " while " ++ quoted ("if " ++ condition) ++
      " is still open"
  | neverClosed condition => quoted ("if " ++ condition) ++ " is never closed with \"endif\""
  | custom _ message => message

end Cause

/-! ## Scopes -/

/-- A place in a book under construction. -/
structure Scope where
  /-- The id of the current chapter. -/
  chapterId : Option String
  /-- The id of the current section. -/
  sectionId : Option String
  /-- The condition of the open branch. -/
  condition : Option String
  deriving DecidableEq, Repr

namespace Scope

/-- The place before everything. -/
def empty : Scope := ⟨none, none, none⟩

/-- Nothing is open. -/
def isEmpty (scope : Scope) : Bool := scope = empty

/-- What is open, from the outside in. -/
def parts (scope : Scope) : List String :=
  (scope.chapterId.map ("chapter `" ++ · ++ "`")).toList ++
  (scope.sectionId.map ("section `" ++ · ++ "`")).toList ++
  (scope.condition.map ("if `" ++ · ++ "`")).toList

/-- The scope in words. -/
def display (scope : Scope) : String := ", ".intercalate scope.parts

end Scope

/-! ## Errors -/

/-- A violation with its place. -/
structure ParseError where
  /-- What is violated. -/
  cause : Cause
  /-- The token the error points at. -/
  token : Option Token
  /-- The place in the book. -/
  scope : Scope
  deriving DecidableEq, Repr

namespace ParseError

/-- A violation without a place. -/
def ofCause (cause : Cause) : ParseError := ⟨cause, none, .empty⟩

/-- The category of the error. -/
def kind (error : ParseError) : ErrorKind := error.cause.kind

/-- The wording of the error without its place. -/
def message (error : ParseError) : String := error.cause.message

/-- The line of the token. -/
def line? (error : ParseError) : Option Nat := error.token.map (·.line)

/-- The error is one of order or balance. -/
def isStructural (error : ParseError) : Bool := error.kind.isStructural

/-- The error in full: the line, the wording and the scope. -/
def display (error : ParseError) : String :=
  (match error.line? with
    | none => ""
    | some line => "line " ++ line.repr ++ ": ") ++
  error.message ++
  (if error.scope.isEmpty then "" else " (in " ++ error.scope.display ++ ")")

/-- Two errors that a reader cannot tell apart: kind, wording, token and scope agree. -/
def sameReport (first second : ParseError) : Bool :=
  first.kind = second.kind && first.message = second.message &&
    first.token = second.token && first.scope = second.scope

end ParseError

end Gamebook.Script
