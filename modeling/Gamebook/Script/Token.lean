/-!
# Tokens

A script is a sequence of tokens of two kinds.  A *directive* is a command line
without its marker.  A *paragraph* is a run of narrative lines.  Each remembers
the number of the line on which it begins.
-/

namespace Gamebook.Script

/-- The two kinds of token. -/
inductive TokenKind where
  /-- A command line. -/
  | directive
  /-- Narrative text. -/
  | paragraph
  deriving DecidableEq, Repr

/-- The name of the kind in reports. -/
def TokenKind.name : TokenKind → String
  | .directive => "directive"
  | .paragraph => "paragraph"

/-- A piece of a script. -/
structure Token where
  /-- Directive or paragraph. -/
  kind : TokenKind
  /-- The text, of a directive without its marker. -/
  text : String
  /-- The line on which it begins, counted from one. -/
  line : Nat
  deriving DecidableEq, Repr

namespace Token

/-- A command line. -/
def directive (text : String) (line : Nat) : Token := ⟨.directive, text, line⟩

/-- Narrative text. -/
def paragraph (text : String) (line : Nat) : Token := ⟨.paragraph, text, line⟩

/-- The token is a command line. -/
def isDirective (token : Token) : Bool := token.kind = .directive

/-- The token is narrative text. -/
def isParagraph (token : Token) : Bool := token.kind = .paragraph

end Token

end Gamebook.Script
