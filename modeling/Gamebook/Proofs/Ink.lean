import Gamebook.Proofs.Positions
import Gamebook.Proofs.Segments

/-!
# The ink of a script

The *ink* of a text is what can be seen of it, its characters without the blanks.  The
tokens of a script have all of its ink, in order, and no other.  For a directive this
includes the ink of the marker, which is not in the text of the token.

A line has the ink of its role (`Marker.ink_role`).  The law of a scan is that the ink of
the tokens to come is that of the paragraph under collection and then that of the lines
(`ink_scan`).  A line that ended a paragraph and was not read again, or was read twice,
would break it.

So there are no tokens exactly if there is no ink, and this is when a parse finds its
input empty.
-/

namespace Gamebook.Text

variable {text : List Char}

/-! ## Ink of a text -/

/-- The characters that are not blank. -/
def ink (text : List Char) : List Char := text.filter (!isBlank ·)

example : ink "\tif \u3000a b\r\n".toList = "ifab".toList := by decide

theorem ink_append (first second : List Char) : ink (first ++ second) = ink first ++ ink second :=
  List.filter_append first second

theorem ink_eq_nil_iff : ink text = [] ↔ ∀ c ∈ text, isBlank c = true := by
  simp [ink, List.filter_eq_nil_iff]

theorem ink_blanks_append {before : List Char} (blank : ∀ c ∈ before, isBlank c = true) :
    ink (before ++ text) = ink text := by
  rw [ink_append, ink_eq_nil_iff.mpr blank, List.nil_append]

theorem ink_append_blanks {after : List Char} (blank : ∀ c ∈ after, isBlank c = true) :
    ink (text ++ after) = ink text := by
  rw [ink_append, ink_eq_nil_iff.mpr blank, List.append_nil]

theorem ink_trimStart : ink (trimStart text) = ink text := by
  obtain ⟨before, blank, whole⟩ := exists_append_trimStart text
  calc
    ink (trimStart text) = ink (before ++ trimStart text) := (ink_blanks_append blank).symm
    _ = ink text := by rw [whole]

theorem ink_trimEnd : ink (trimEnd text) = ink text := by
  obtain ⟨after, blank, whole⟩ := exists_trimEnd_append text
  calc
    ink (trimEnd text) = ink (trimEnd text ++ after) := (ink_append_blanks blank).symm
    _ = ink text := by rw [whole]

/-- Trimming loses blanks only. -/
theorem ink_trim : ink (trim text) = ink text := by
  rw [trim, ink_trimEnd, ink_trimStart]

/-- A newline between two texts is not seen. -/
theorem ink_intercalate (lines : List (List Char)) :
    ink (['\n'].intercalate lines) = lines.flatMap ink := by
  induction lines with
  | nil => rfl
  | cons line others ih =>
    cases others with
    | nil => rw [List.intercalate_singleton, List.flatMap_singleton]
    | cons next more =>
      have newline : ink ['\n'] = [] := by decide
      rw [List.intercalate_cons_cons, ink_append, ink_append, newline, List.append_nil, ih]
      rfl

end Gamebook.Text

namespace Gamebook.Script

open Gamebook.Text (ink ink_append ink_append_blanks ink_eq_nil_iff ink_intercalate ink_trim
  ink_trimEnd ink_trimStart)

/-! ## Ink of lines and tokens -/

/-- The ink of a line with this role. -/
def LineRole.ink (marker : List Char) : LineRole → List Char
  | .blank => []
  | .directive payload => Text.ink marker ++ Text.ink payload
  | .text content => Text.ink content

/-- The ink of the token in its script: that of its text, and before it that of the marker if
the token is a directive. -/
def Token.ink (marker : List Char) (token : Token) : List Char :=
  match token.kind with
  | .directive => Text.ink marker ++ Text.ink token.text.toList
  | .paragraph => Text.ink token.text.toList

theorem Token.ink_directive (marker payload : List Char) (line : Nat) :
    (directive (String.ofList payload) line).ink marker = Text.ink marker ++ Text.ink payload := by
  rw [ink, directive, String.toList_ofList]

/-- The ink of the paragraph under collection, if there is one. -/
def Draft.ink (draft : Option Draft) : List Char :=
  (draft.map fun draft => draft.lines.reverse.flatMap Text.ink).getD []

theorem Draft.ink_close (marker : List Char) (draft : Option Draft) :
    (close draft).flatMap (Token.ink marker) = ink draft := by
  cases draft with
  | none => rfl
  | some draft =>
    have paragraph : draft.token.ink marker = draft.lines.reverse.flatMap Text.ink := by
      rw [Token.ink, token, Token.paragraph, String.toList_ofList, ink_intercalate]
    simpa [close, ink] using paragraph

/-- A line that continues a paragraph adds its ink. -/
theorem Draft.ink_extend (draft : Option Draft) (number : Nat) (content : List Char) :
    ink (some (extend draft number content)) = ink draft ++ Text.ink content := by
  cases draft <;> simp [ink, extend]

theorem LineReader.ink_dropReturn (line : List Char) : ink (dropReturn line) = ink line := by
  obtain ⟨after, blank, whole⟩ := exists_dropReturn_append line
  calc
    ink (dropReturn line) = ink (dropReturn line ++ after) := (ink_append_blanks blank).symm
    _ = ink line := by rw [whole]

section

variable {marker : Marker}

/-- A line has the ink of its role. -/
theorem Marker.ink_role (line : List Char) : (marker.role line).ink marker.chars = ink line := by
  rw [← @ink_trimStart line, role]
  split
  next start =>
    rw [start]
    rfl
  next first rest start =>
    rw [start]
    split
    next payload found =>
      rw [LineRole.ink, ink_trim, ← ink_append, List.isPrefixOf?_eq_some_iff_append_eq.mp found]
    next => rw [LineRole.ink, ink_trimEnd]

/-! ## Ink of a script -/

/-- The tokens to come have the ink of the paragraph under collection and of the lines. -/
theorem ink_scan (draft : Option Draft) (lines : List Line) :
    (scan marker draft lines).flatMap (Token.ink marker.chars) =
      Draft.ink draft ++ lines.flatMap (ink ·.text) := by
  induction lines generalizing draft with
  | nil => rw [scan, Draft.ink_close, List.flatMap_nil, List.append_nil]
  | cons line lines ih =>
    -- a line that is no text closes the paragraph, and nothing is under collection behind it
    have fresh := ih none
    have here := @Marker.ink_role marker line.text
    rw [List.flatMap_cons, ← here, scan]
    cases role : marker.role line.text with
    | blank =>
      simp only [List.flatMap_append, Draft.ink_close, fresh]
      rfl
    | directive payload =>
      simp only [List.flatMap_append, List.flatMap_cons, Draft.ink_close, Token.ink_directive,
        fresh]
      rfl
    | text content =>
      simp only [ih, Draft.ink_extend, List.append_assoc]
      rfl

theorem map_text_numbered (number : Nat) (texts : List (List Char)) :
    (numbered number texts).map Line.text = texts := by
  induction texts generalizing number with
  | nil => rfl
  | cons text texts ih => rw [numbered_cons, List.map_cons, ih]

theorem map_text_pieces (script : String) :
    (pieces script).map Line.text = (script.toList.splitOn '\n').map LineReader.dropReturn :=
  map_text_numbered 1 _

/-- Cutting into lines loses newlines and carriage returns only. -/
theorem ink_pieces (script : String) :
    (pieces script).flatMap (ink ·.text) = ink script.toList := by
  calc
    (pieces script).flatMap (ink ·.text) = ((pieces script).map Line.text).flatMap ink :=
      (List.flatMap_map _ _ _).symm
    _ = (script.toList.splitOn '\n').flatMap ink := by
      rw [map_text_pieces, List.flatMap_map]
      simp only [LineReader.ink_dropReturn]
    _ = ink script.toList := by rw [← ink_intercalate, List.intercalate_splitOn]

/-- The tokens of a script have its ink. -/
theorem ink_tokens (script : String) :
    (tokens marker script).flatMap (Token.ink marker.chars) = ink script.toList := by
  rw [← scan_pieces, ink_scan, ink_pieces]
  rfl

/-! ## Scripts without ink -/

theorem scan_of_isBlank {lines : List Line} (blank : ∀ line ∈ lines, line.isBlank = true) :
    scan marker none lines = [] := by
  induction lines with
  | nil => rfl
  | cons line lines ih =>
    obtain ⟨here, later⟩ := List.forall_mem_cons.mp blank
    rw [scan, Marker.role_of_isBlank here]
    exact ih later

/-- There are no tokens exactly if there is nothing but blanks. -/
theorem tokens_eq_nil_iff {script : String} :
    tokens marker script = [] ↔ ∀ c ∈ script.toList, Text.isBlank c = true := by
  constructor
  · intro empty
    rw [← ink_eq_nil_iff, ← @ink_tokens marker, empty, List.flatMap_nil]
  · intro blank
    rw [← scan_pieces]
    refine scan_of_isBlank fun line inside => List.all_eq_true.mpr fun c onLine => blank c ?_
    have isText : line.text ∈ (pieces script).map Line.text := List.mem_map_of_mem inside
    rw [map_text_pieces] at isText
    obtain ⟨piece, isPiece, same⟩ := List.mem_map.mp isText
    rw [← same] at onLine
    rw [List.splitOn_eq_splitOnP] at isPiece
    exact (Text.of_mem_splitOnP isPiece c (LineReader.mem_of_mem_dropReturn onLine)).1

end

/-- The input is found empty exactly if there are no tokens. -/
theorem fails_emptyInput_iff {mode : Mode} {tokens : List Token} :
    (∃ error, (parse mode tokens).result = .error error ∧ error.kind = .emptyInput) ↔
      tokens = [] := by
  constructor
  · rintro ⟨error, failed, empty⟩
    by_contra given
    have points : error.PointsInto _ _ := (stops_of_parse failed).pointsInto given
    exact points.given empty
  · rintro rfl
    exact ⟨.ofCause .emptyInput, rfl, rfl⟩

/-- The ink of a script is that of its tokens in order, with the marker before each
directive.  The input is found empty exactly if there is nothing but blanks, in either mode. -/
theorem ink_eq_flatMap_tokens (markerText script : String) :
    ink script.toList =
        (tokens (.ofString markerText) script).flatMap (Token.ink (markerChars markerText)) ∧
      ∀ mode, (∃ error, (parseText mode (.ofString markerText) script).result = .error error ∧
          error.kind = .emptyInput) ↔
        ∀ c ∈ script.toList, Text.isBlank c = true := by
  constructor
  · rw [← Marker.chars_ofString, ink_tokens]
  · intro mode
    rw [parseText, fails_emptyInput_iff, tokens_eq_nil_iff]

end Gamebook.Script
