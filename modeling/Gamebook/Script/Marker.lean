import Gamebook.Text.Blank

/-!
# Markers

A directive line begins with a *marker*, two slashes unless the author chose
another one.  Blanks before the marker do not count.  A line without anything
but blanks is blank, and every other line is text.

The empty text is no marker, since every line would begin with it.  Asking for
it gives the standard marker.
-/

namespace Gamebook.Script

open Gamebook.Text (trim trimStart trimEnd)

/-- What introduces a directive line. -/
structure Marker where
  /-- The characters of the marker. -/
  chars : List Char
  /-- A marker is not empty. -/
  chars_ne_nil : chars ≠ []
  deriving DecidableEq

/-- What a line is for a reader that knows the marker. -/
inductive LineRole where
  /-- Nothing but blanks. -/
  | blank
  /-- A command line: what follows the marker, trimmed. -/
  | directive (payload : List Char)
  /-- A line of narrative, trimmed. -/
  | text (content : List Char)
  deriving DecidableEq

namespace Marker

/-- Two slashes. -/
def standard : Marker := ⟨['/', '/'], by decide⟩

/-- The text as a marker, the standard one if it is empty. -/
def ofString (text : String) : Marker :=
  match text.toList with
  | [] => standard
  | c :: rest => ⟨c :: rest, List.cons_ne_nil c rest⟩

/-- What the line is. -/
def role (marker : Marker) (line : List Char) : LineRole :=
  match trimStart line with
  | [] => .blank
  | c :: rest =>
    match marker.chars.isPrefixOf? (c :: rest) with
    | some payload => .directive (trim payload)
    | none => .text (trimEnd (c :: rest))

example : standard.role [' ', '/', '/', ' ', 'i', 'f', ' '] = .directive ['i', 'f'] := by decide
example : standard.role [' ', '/', ' '] = .text ['/'] := by decide
example : standard.role ['\t', ' '] = .blank := by decide

end Marker

end Gamebook.Script
