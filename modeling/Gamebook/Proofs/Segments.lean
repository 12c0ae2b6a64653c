import Gamebook.Proofs.Cursors
import Mathlib.Data.List.SplitBy

/-!
# The segments of a script

What the tokens of a script are, said without a scan.  Cut the script at its
newlines and number the pieces.  Then cut the pieces into *segments*: as many
text lines in a row as there are make one segment, and a blank line or a
directive is a segment of its own.  A segment of text lines is a paragraph, a
directive line is a directive, and a blank line is nothing.

Lines are read up to the end of the text, so an empty last piece is not read
(`LineReader.lines_eq`), but a blank line at the end changes no token
(`scan_concat_blank`).  The paragraph under collection is the run of text lines
that were read last, and this is what carries the induction
(`scan_eq_segments`).
-/

namespace Gamebook.Script

open Gamebook.Text

/-! ## Pieces of a text -/

/-- Texts as lines with consecutive numbers. -/
def numbered (number : Nat) (texts : List (List Char)) : List Line :=
  texts.mapIdx fun index text => ⟨text, number + index⟩

/-- The pieces of a text between its newlines, without an empty one at the end. -/
def lineTexts (text : List Char) : List (List Char) :=
  if (text.splitOn '\n').getLast? = some [] then (text.splitOn '\n').dropLast
  else text.splitOn '\n'

/-- All pieces of a script between its newlines, each without one carriage
return at its end, numbered from one. -/
def pieces (script : String) : List Line :=
  numbered 1 ((script.toList.splitOn '\n').map LineReader.dropReturn)

theorem numbered_cons (number : Nat) (text : List Char) (texts : List (List Char)) :
    numbered number (text :: texts) = ⟨text, number⟩ :: numbered (number + 1) texts := by
  simp only [numbered, List.mapIdx_cons, Nat.add_zero, Nat.add_assoc, Nat.add_comm 1]

/-- Lines whose texts are changed, and which are moved by an offset. -/
theorem map_numbered {change : Line → Line} {write : List Char → List Char} {offset : Nat}
    (changes : ∀ text number, change ⟨text, number⟩ = ⟨write text, number + offset⟩)
    (number : Nat) (texts : List (List Char)) :
    (numbered number texts).map change = numbered (number + offset) (texts.map write) := by
  induction texts generalizing number with
  | nil => rfl
  | cons text texts ih =>
    rw [numbered_cons, List.map_cons, changes, ih, List.map_cons, numbered_cons,
      Nat.add_right_comm]

theorem numbered_append (number : Nat) (texts others : List (List Char)) :
    numbered number (texts ++ others) =
      numbered number texts ++ numbered (number + texts.length) others := by
  simp only [numbered, List.mapIdx_append, Nat.add_assoc, Nat.add_comm texts.length]

theorem getElem?_numbered (number : Nat) (texts : List (List Char)) (index : Nat) :
    (numbered number texts)[index]? = texts[index]?.map (⟨·, number + index⟩) := by
  simp [numbered]

theorem lineTexts_of_not_mem {text : List Char} (nonempty : text ≠ []) (closed : '\n' ∉ text) :
    lineTexts text = [text] := by
  rw [lineTexts, List.splitOn_eq_singleton closed, if_neg]
  simpa using nonempty

theorem lineTexts_append {line : List Char} (closed : '\n' ∉ line) (rest : List Char) :
    lineTexts (line ++ '\n' :: rest) = line :: lineTexts rest := by
  obtain ⟨piece, more, cut⟩ := List.exists_cons_of_ne_nil (List.splitOn_ne_nil '\n' rest)
  rw [lineTexts, lineTexts, List.splitOn_append_cons_self_of_not_mem closed, cut,
    List.getLast?_cons_cons, List.dropLast_cons_cons]
  split <;> rfl

/-- The lines are the pieces between newlines. -/
theorem LineReader.lines_eq (reader : LineReader) :
    reader.lines = numbered reader.number ((lineTexts reader.rest).map dropReturn) := by
  induction reader using lines.induct with
  | case1 reader ended =>
    rw [lines_of_read?_eq_none ended, rest_eq_nil_of_read? ended]
    rfl
  | case2 reader line next found ih =>
    rw [lines_of_read?_eq_some found, ih]
    obtain ⟨piece, closed, rfl, ⟨rfl, nonempty, rfl⟩ | ⟨rest, whole, rfl⟩⟩ := of_read?_eq_some found
    · rw [lineTexts_of_not_mem nonempty closed, List.map_singleton, numbered_cons]
      rfl
    · rw [whole, lineTexts_append closed, List.map_cons, numbered_cons]

/-! ## Segments -/

namespace Line

/-- Nothing but blanks is on the line. -/
def isBlank (line : Line) : Bool := line.text.all Text.isBlank

/-- Something is on the line, and the marker is what comes first. -/
def isDirective (marker : List Char) (line : Line) : Bool :=
  !line.isBlank && marker.isPrefixOf (trimStart line.text)

/-- Something is on the line, and the marker does not come first. -/
def isText (marker : List Char) (line : Line) : Bool :=
  !line.isBlank && !marker.isPrefixOf (trimStart line.text)

/-- What follows the marker, trimmed. -/
def payload (marker : List Char) (line : Line) : List Char :=
  trim ((trimStart line.text).drop marker.length)

end Line

/-- The lines, cut between any two that are not both text. -/
def segments (marker : List Char) (lines : List Line) : List (List Line) :=
  lines.splitBy fun line next => line.isText marker && next.isText marker

example : (segments ['/', '/'] (pieces "a\nb\n\n// if c\nd")).map (·.map Line.number) =
    [[1, 2], [3], [4], [5]] := by decide

/-- The token of a segment, if it has one. -/
def segmentToken? (marker : List Char) : List Line → Option Token
  | [] => none
  | first :: others =>
    if first.isDirective marker then
      some (.directive (String.ofList (first.payload marker)) first.number)
    else if first.isText marker then
      some (.paragraph
        (String.ofList (['\n'].intercalate ((first :: others).map (trim ·.text)))) first.number)
    else none

/-- The characters of the marker that the text asks for. -/
def markerChars (text : String) : List Char := (if text = "" then "//" else text).toList

theorem Marker.chars_ofString (text : String) : (ofString text).chars = markerChars text := by
  unfold ofString markerChars
  split
  next empty =>
    rw [if_pos (String.toList_eq_nil_iff.mp empty)]
    rfl
  next chars =>
    rw [if_neg, chars]
    rintro rfl
    cases chars

section

variable {marker : Marker}

/-- A run of text lines is one segment. -/
theorem segments_of_isText {run : List Line} (nonempty : run ≠ [])
    (areText : ∀ line ∈ run, line.isText marker.chars = true) :
    segments marker.chars run = [run] := by
  refine List.splitBy_of_isChain nonempty (List.Pairwise.isChain ?_)
  refine List.pairwise_of_forall_mem_list fun line inside next follows => ?_
  rw [areText line inside, areText next follows]
  rfl

/-- Any other line is one segment. -/
theorem segments_append_cons {line : Line} (notText : line.isText marker.chars = false)
    (before after : List Line) :
    segments marker.chars (before ++ line :: after) =
      segments marker.chars before ++ [line] :: segments marker.chars after := by
  have alone : segments marker.chars (line :: after) = [line] :: segments marker.chars after := by
    refine List.splitBy_append (l := [line]) ?_
    simp [notText]
  rw [← alone]
  refine List.splitBy_append_cons after ?_
  simp [notText]

/-! ## Roles of lines -/

theorem Line.isBlank_iff {line : Line} : line.isBlank = true ↔ trimStart line.text = [] := by
  rw [isBlank, List.all_eq_true, trimStart_eq_nil_iff]

theorem Marker.role_of_isBlank {line : Line} (blank : line.isBlank = true) :
    marker.role line.text = .blank := by
  rw [role, Line.isBlank_iff.mp blank]

/-- Where there is something on the line, it is looked at from there. -/
theorem Marker.role_of_not_isBlank {line : Line} (notBlank : (!line.isBlank) = true) :
    marker.role line.text = (marker.chars.isPrefixOf? (trimStart line.text)).elim
      (.text (trim line.text)) fun payload => .directive (trim payload) := by
  rw [role, trim]
  split
  next empty =>
    rw [Line.isBlank_iff.mpr empty] at notBlank
    cases notBlank
  next first rest start =>
    rw [start]
    cases marker.chars.isPrefixOf? (first :: rest) <;> rfl

theorem Marker.role_of_isDirective {line : Line} (isDirective : line.isDirective marker.chars) :
    marker.role line.text = .directive (line.payload marker.chars) := by
  obtain ⟨notBlank, begins⟩ := Bool.and_eq_true_iff.mp isDirective
  obtain ⟨after, whole⟩ := List.isPrefixOf_iff_prefix.mp begins
  rw [role_of_not_isBlank notBlank, List.isPrefixOf?_eq_some_iff_append_eq.mpr whole,
    Option.elim_some, Line.payload, ← whole, List.drop_left]

theorem Marker.role_of_isText {line : Line} (isText : line.isText marker.chars) :
    marker.role line.text = .text (trim line.text) := by
  obtain ⟨notBlank, unmarked⟩ := Bool.and_eq_true_iff.mp isText
  rw [Bool.not_eq_true', ← List.isSome_isPrefixOf?_eq_isPrefixOf, Option.isSome_eq_false_iff,
    Option.isNone_iff_eq_none] at unmarked
  rw [role_of_not_isBlank notBlank, unmarked, Option.elim_none]

/-! ## The scan -/

/-- The paragraph under collection after a run of text lines. -/
def Draft.ofRun : List Line → Option Draft
  | [] => none
  | first :: others => some ⟨first.number, ((first :: others).map (trim ·.text)).reverse⟩

theorem Draft.extend_ofRun (run : List Line) (line : Line) :
    some (extend (ofRun run) line.number (trim line.text)) = ofRun (run ++ [line]) := by
  cases run with
  | nil => rfl
  | cons first others => simp [ofRun, extend]

theorem Draft.close_ofRun {run : List Line}
    (areText : ∀ line ∈ run, line.isText marker.chars = true) :
    close (ofRun run) = (segments marker.chars run).filterMap (segmentToken? marker.chars) := by
  cases run with
  | nil => rfl
  | cons first others =>
    have isText := areText first (.head _)
    have notDirective : first.isDirective marker.chars = false := by
      simp_all [Line.isText, Line.isDirective]
    rw [segments_of_isText (List.cons_ne_nil _ _) areText]
    simp [segmentToken?, isText, notDirective, close, ofRun, token]

/-- The tokens are those of the segments, where the run is under collection. -/
theorem scan_eq_segments (lines run : List Line)
    (areText : ∀ line ∈ run, line.isText marker.chars = true) :
    scan marker (Draft.ofRun run) lines =
      (segments marker.chars (run ++ lines)).filterMap (segmentToken? marker.chars) := by
  induction lines generalizing run with
  | nil => rw [scan, List.append_nil, Draft.close_ofRun areText]
  | cons line lines ih =>
    have fresh := ih [] nofun
    cases isText : line.isText marker.chars with
    | true =>
      -- The line joins the run.
      have longer : ∀ other ∈ run ++ [line], other.isText marker.chars = true := by
        simpa [or_imp, forall_and] using ⟨areText, isText⟩
      rw [scan, Marker.role_of_isText isText]
      simp only [Draft.extend_ofRun]
      rw [ih (run ++ [line]) longer, List.append_assoc, List.singleton_append]
    | false =>
      -- The line ends the run, and behind it no paragraph is under collection.
      rw [segments_append_cons isText, List.filterMap_append, ← Draft.close_ofRun areText,
        List.filterMap_cons, scan]
      cases isBlank : line.isBlank with
      | true =>
        have noToken : segmentToken? marker.chars [line] = none := by
          simp [segmentToken?, isText, Line.isDirective, isBlank]
        simp only [Marker.role_of_isBlank isBlank, noToken]
        exact congrArg _ fresh
      | false =>
        have isDirective : line.isDirective marker.chars = true := by
          simp_all [Line.isText, Line.isDirective]
        simp only [Marker.role_of_isDirective isDirective, segmentToken?, isDirective, if_true]
        exact congrArg _ (congrArg _ fresh)

/-- A blank line ends a paragraph, and behind it the scan begins anew. -/
theorem scan_append_blank {line : Line} (blank : marker.role line.text = .blank)
    (draft : Option Draft) (before after : List Line) :
    scan marker draft (before ++ line :: after) =
      scan marker draft before ++ scan marker none after := by
  induction before generalizing draft with
  | nil => simp only [List.nil_append, scan, blank]
  | cons first before ih =>
    rw [List.cons_append, scan, scan]
    cases marker.role first.text with
    | blank => simp only [ih, List.append_assoc]
    | directive payload => simp only [ih, List.append_assoc, List.cons_append]
    | text content => exact ih _

/-- A blank line at the end changes nothing. -/
theorem scan_concat_blank (draft : Option Draft) (lines : List Line) (number : Nat) :
    scan marker draft (lines ++ [⟨[], number⟩]) = scan marker draft lines := by
  rw [scan_append_blank rfl]
  exact List.append_nil _

/-- The last piece may be read or not. -/
theorem scan_pieces (script : String) :
    scan marker none (pieces script) = tokens marker script := by
  rw [tokens_eq_scan_lines, LineReader.lines_eq, pieces, LineReader.ofString]
  unfold lineTexts
  split
  next unended =>
    obtain ⟨before, cut⟩ := List.getLast?_eq_some_iff.mp unended
    rw [cut, List.dropLast_concat, List.map_append, numbered_append]
    exact scan_concat_blank none _ _
  next => rfl

/-- The tokens of a script are those of the segments of its pieces. -/
theorem tokens_eq (script : String) :
    tokens marker script =
      (segments marker.chars (pieces script)).filterMap (segmentToken? marker.chars) := by
  rw [← scan_pieces]
  exact scan_eq_segments (pieces script) [] nofun

end

/-- The tokens of a script are those of the segments of its pieces, for the
marker that the author asked for. -/
theorem tokens_eq_filterMap_segments (markerText script : String) :
    tokens (.ofString markerText) script =
      (segments (markerChars markerText) (pieces script)).filterMap
        (segmentToken? (markerChars markerText)) := by
  rw [← Marker.chars_ofString]
  exact tokens_eq script

end Gamebook.Script
