import Gamebook.Script.Cursor
import Gamebook.Script.Marker
import Gamebook.Script.Token

/-!
# From lines to tokens

The scan goes through the lines once.  A directive line becomes a token of its
own.  A text line joins the paragraph under collection or begins one, and a
blank line or a directive ends it.  So a paragraph is as long as the text lines
go on.  Its lines are trimmed and joined by newlines, and its number is that of
the first.

The scan cannot fail.
-/

namespace Gamebook.Script

/-! ## The paragraph under collection -/

/-- A paragraph that may still get lines. -/
structure Draft where
  /-- The number of its first line. -/
  line : Nat
  /-- Its lines so far, the latest first. -/
  lines : List (List Char)
  deriving DecidableEq

namespace Draft

/-- The paragraph as a token. -/
def token (draft : Draft) : Token :=
  .paragraph (String.ofList (['\n'].intercalate draft.lines.reverse)) draft.line

/-- One more line for the paragraph.  Without one, a paragraph begins here. -/
def extend (draft : Option Draft) (number : Nat) (content : List Char) : Draft :=
  match draft with
  | none => ⟨number, [content]⟩
  | some draft => ⟨draft.line, content :: draft.lines⟩

/-- The token of the paragraph, if there is one. -/
def close (draft : Option Draft) : List Token := (draft.map token).toList

end Draft

/-! ## The scan -/

/-- The tokens of the lines, where a paragraph may be under collection. -/
def scan (marker : Marker) : Option Draft → List Line → List Token
  | draft, [] => Draft.close draft
  | draft, line :: rest =>
    match marker.role line.text with
    | .blank => Draft.close draft ++ scan marker none rest
    | .directive payload =>
      Draft.close draft ++ .directive (String.ofList payload) line.number :: scan marker none rest
    | .text content => scan marker (some (Draft.extend draft line.number content)) rest

/-- The tokens of a script. -/
def tokens (marker : Marker) (script : String) : List Token :=
  scan marker none (LineCursor.initial.lines script)

end Gamebook.Script
