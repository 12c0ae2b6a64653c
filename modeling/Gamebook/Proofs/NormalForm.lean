import Gamebook.Proofs.Printing

/-!
# Tokens that a script can have

A token is *normal* if its text is trimmed and has the newlines that it may
have: none in a directive, and in a paragraph only such as stand between text
lines.  Whether a token is normal can be computed from its text.

A token is normal exactly if its passage is (`Token.isNormal_iff`).  So every
token of a script is normal, and a list of normal tokens is read back from the
script that it prints.  Only the numbers of the lines may be others.
-/

namespace Gamebook.Script

open Gamebook.Text

/-- The lines of the text are text lines for the marker. -/
def HasTextLines (marker : Marker) (text : List Char) : Prop :=
  ∀ line ∈ text.splitOn '\n', line ≠ [] ∧ trim line = line ∧ ¬ marker.chars <+: line

instance (marker : Marker) (text : List Char) : Decidable (HasTextLines marker text) :=
  inferInstanceAs (Decidable (∀ line ∈ text.splitOn '\n', _))

/-- A script can have the token. -/
structure Token.IsNormal (marker : Marker) (token : Token) : Prop where
  /-- There are no blanks at its ends. -/
  trimmed : trim token.text.toList = token.text.toList
  /-- A directive is one line. -/
  oneLine : token.kind = .directive → '\n' ∉ token.text.toList
  /-- A paragraph is text lines. -/
  textLines : token.kind = .paragraph → HasTextLines marker token.text.toList

instance (marker : Marker) (token : Token) : Decidable (token.IsNormal marker) :=
  decidable_of_iff (trim token.text.toList = token.text.toList ∧
      (token.kind = .directive → '\n' ∉ token.text.toList) ∧
      (token.kind = .paragraph → HasTextLines marker token.text.toList))
    ⟨fun ⟨trimmed, oneLine, textLines⟩ => ⟨trimmed, oneLine, textLines⟩,
      fun ⟨trimmed, oneLine, textLines⟩ => ⟨trimmed, oneLine, textLines⟩⟩

/-- The script of the tokens. -/
def printTokens (marker : Marker) (given : List Token) : String :=
  String.ofList (printPassages marker (given.map Token.passage))

section

variable {marker : Marker}

/-- A text is text lines if they are what newlines cut it into. -/
theorem isTextBlock_iff {text : String} :
    IsTextBlock marker text ↔
      trim text.toList = text.toList ∧ HasTextLines marker text.toList := by
  constructor
  · rintro ⟨lines, nonempty, areText, chars⟩
    have cut : text.toList.splitOn '\n' = lines := by
      rw [chars]
      exact List.splitOn_intercalate '\n' (fun line inside => (areText line inside).closed) nonempty
    constructor
    · rw [chars]
      exact (trim_intercalate (fun line inside => (areText line inside).ne_nil)
        fun line inside => (areText line inside).trimmed).1
    · intro line inside
      rw [cut] at inside
      obtain ⟨ne_nil, trimmed, -, unmarked⟩ := areText line inside
      exact ⟨ne_nil, trimmed, unmarked⟩
  · rintro ⟨-, textLines⟩
    refine ⟨text.toList.splitOn '\n', List.splitOn_ne_nil _ _, ?_,
      (List.intercalate_splitOn '\n').symm⟩
    intro line inside
    obtain ⟨ne_nil, trimmed, unmarked⟩ := textLines line inside
    exact ⟨ne_nil, trimmed, newline_not_mem_of_mem_splitOn inside, unmarked⟩

theorem Token.isNormal_iff {token : Token} :
    token.IsNormal marker ↔ token.passage.Normal marker := by
  obtain ⟨kind, text, line⟩ := token
  cases kind with
  | directive =>
    constructor
    · rintro ⟨trimmed, oneLine, -⟩
      exact ⟨trimmed, oneLine rfl⟩
    · rintro ⟨trimmed, oneLine⟩
      exact ⟨trimmed, fun _ => oneLine, nofun⟩
  | paragraph =>
    constructor
    · rintro ⟨trimmed, -, textLines⟩
      exact isTextBlock_iff.mpr ⟨trimmed, textLines rfl⟩
    · intro normal
      obtain ⟨trimmed, textLines⟩ := isTextBlock_iff.mp normal
      exact ⟨trimmed, nofun, fun _ => textLines⟩

end

/-- A script has normal tokens only.  Normal tokens are read back from what they
print, if the marker neither begins with a blank nor has a newline. -/
theorem tokens_isNormal_and_read_back (marker : Marker) :
    (∀ script, ∀ token ∈ tokens marker script, token.IsNormal marker) ∧
      ((∀ c, marker.chars.head? = some c → isBlank c = false) → '\n' ∉ marker.chars →
        ∀ given : List Token, (∀ token ∈ given, token.IsNormal marker) →
          (tokens marker (printTokens marker given)).map Token.passage =
            given.map Token.passage) := by
  constructor
  · intro script token inside
    exact Token.isNormal_iff.mpr (normal_of_mem_tokens marker script token inside)
  · intro begins closed given areNormal
    refine passages_of_printed ?_ begins closed
    exact List.forall_mem_map.mpr fun token inside =>
      Token.isNormal_iff.mp (areNormal token inside)

/-- A marker with a tab inside and a carriage return at its end. -/
def crookedMarker : Marker := ⟨['#', '\t', '\r'], by decide⟩

/-- A directive without a text, and two paragraphs in a row of which the first
begins almost as a directive does. -/
def crookedTokens : List Token :=
  [.directive "" 7, .paragraph "# a\nb\tc" 7, .paragraph "d" 7, .directive "if x" 7]

theorem tokens_read_back_crooked_marker :
    (∀ c, crookedMarker.chars.head? = some c → isBlank c = false) ∧
      '\n' ∉ crookedMarker.chars ∧
      (∀ token ∈ crookedTokens, token.IsNormal crookedMarker) ∧
      (tokens crookedMarker (printTokens crookedMarker crookedTokens)).map Token.passage =
        crookedTokens.map Token.passage := by
  have begins : ∀ c, crookedMarker.chars.head? = some c → isBlank c = false := by
    rintro c ⟨⟩
    decide
  have closed : '\n' ∉ crookedMarker.chars := by decide
  have areNormal : ∀ token ∈ crookedTokens, token.IsNormal crookedMarker := by decide
  exact ⟨begins, closed, areNormal,
    (tokens_isNormal_and_read_back crookedMarker).2 begins closed crookedTokens areNormal⟩

end Gamebook.Script
