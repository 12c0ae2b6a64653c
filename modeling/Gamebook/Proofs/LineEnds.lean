import Gamebook.Proofs.BlankLines
import Gamebook.Script.Parse

/-!
# Blanks at the ends of lines

The blanks before and behind what is on a line do not matter.  The carriage return of a
line end is one of them, so a script may have its lines ended either way.

This needs a marker without blanks.  Such a marker begins a line exactly if it begins
the trimmed line, since it does not reach into the blanks behind the text
(`Marker.isPrefix_append_blanks_iff`).  What is behind the marker is trimmed in any case.
So a line plays the same role once it is trimmed (`Marker.role_trimmed`), and the tokens
are those of the trimmed pieces with their numbers (`tokens_eq_scan_trim`).

With a blank in the marker, a line can lose what made it a directive.
-/

namespace Gamebook.Script

open Gamebook.Text

/-! ## Trimmed lines -/

/-- The line without the blanks at its ends. -/
def Line.trimmed (line : Line) : Line := { line with text := trim line.text }

theorem Line.isBlank_trimmed (line : Line) : line.trimmed.isBlank = line.isBlank := by
  have started : trimStart (trim line.text) = trim line.text := (trim_eq_self_iff.mp trim_trim).1
  rw [Bool.eq_iff_iff, isBlank_iff, isBlank_iff, trimmed, started, trim_eq_nil_iff,
    trimStart_eq_nil_iff]

theorem map_trimmed_numbered (number : Nat) (texts : List (List Char)) :
    (numbered number texts).map .trimmed = numbered number (texts.map trim) :=
  @map_numbered .trimmed trim 0 (fun _ _ => rfl) number texts

/-- The carriage return of a line end is one of the blanks. -/
theorem trim_dropReturn (line : List Char) : trim (LineReader.dropReturn line) = trim line := by
  obtain ⟨after, blank, whole⟩ := LineReader.exists_dropReturn_append line
  rw [← trim_append_blanks blank, whole]

theorem map_trimmed_pieces (script : String) :
    (pieces script).map .trimmed = numbered 1 ((script.toList.splitOn '\n').map trim) := by
  have returns : trim ∘ LineReader.dropReturn = trim := funext trim_dropReturn
  rw [pieces, map_trimmed_numbered, List.map_map, returns]

section

variable {marker : Marker} (unblank : ∀ c ∈ marker.chars, isBlank c = false)

include unblank

/-- The marker does not reach into the blanks behind a text. -/
theorem Marker.isPrefix_append_blanks_iff {text after : List Char}
    (blank : ∀ c ∈ after, isBlank c = true) :
    marker.chars <+: text ++ after ↔ marker.chars <+: text := by
  refine ⟨fun begins => ?_, fun begins => begins.trans (List.prefix_append text after)⟩
  rcases List.prefix_or_prefix_of_prefix begins (List.prefix_append text after) with
    within | ⟨beyond, longer⟩
  · exact within
  · -- What the marker has beyond the text would be blank.
    rw [← longer, List.prefix_append_right_inj] at begins
    have nothing : beyond = [] := by
      refine List.eq_nil_iff_forall_not_mem.mpr fun c inside => ?_
      have notBlank := unblank c (longer ▸ List.mem_append_right text inside)
      rw [blank c (begins.subset inside)] at notBlank
      cases notBlank
    exact ⟨[], by rw [← longer, nothing, List.append_nil, List.append_nil]⟩

theorem Marker.isPrefixOf?_append_blanks {text after : List Char}
    (blank : ∀ c ∈ after, isBlank c = true) :
    marker.chars.isPrefixOf? (text ++ after) =
      (marker.chars.isPrefixOf? text).map (· ++ after) := by
  cases found : marker.chars.isPrefixOf? text with
  | some payload =>
    rw [List.isPrefixOf?_eq_some_iff_append_eq] at found
    rw [Option.map_some, List.isPrefixOf?_eq_some_iff_append_eq, ← found, List.append_assoc]
  | none =>
    cases longer : marker.chars.isPrefixOf? (text ++ after) with
    | none => rfl
    | some payload =>
      have begins : marker.chars <+: text ++ after :=
        ⟨payload, List.isPrefixOf?_eq_some_iff_append_eq.mp longer⟩
      obtain ⟨rest, whole⟩ := (isPrefix_append_blanks_iff unblank blank).mp begins
      rw [List.isPrefixOf?_eq_some_iff_append_eq.mpr whole] at found
      cases found

/-- A line plays the same role without the blanks at its ends. -/
theorem Marker.role_trimmed (line : Line) :
    marker.role line.trimmed.text = marker.role line.text := by
  cases blank : line.isBlank with
  | true => rw [role_of_isBlank blank, role_of_isBlank ((Line.isBlank_trimmed line).trans blank)]
  | false =>
    obtain ⟨after, behind, whole⟩ : ∃ after, (∀ c ∈ after, Text.isBlank c = true) ∧
        trim line.text ++ after = trimStart line.text := exists_trimEnd_append (trimStart line.text)
    have started : trimStart (trim line.text) = trim line.text := (trim_eq_self_iff.mp trim_trim).1
    rw [role_of_not_isBlank (by rw [Line.isBlank_trimmed, blank]; rfl),
      role_of_not_isBlank (by rw [blank]; rfl), Line.trimmed, started, trim_trim, ← whole,
      isPrefixOf?_append_blanks unblank behind]
    cases marker.chars.isPrefixOf? (trim line.text) with
    | none => rfl
    | some payload => exact congrArg LineRole.directive (trim_append_blanks behind).symm

/-- A scan does not look at the blanks at the ends of lines. -/
theorem scan_trimmed (draft : Option Draft) (lines : List Line) :
    scan marker draft (lines.map .trimmed) = scan marker draft lines := by
  induction lines generalizing draft with
  | nil => rfl
  | cons line lines ih =>
    rw [List.map_cons, scan, scan, Marker.role_trimmed unblank]
    cases marker.role line.text <;> simp only [ih] <;> rfl

/-- The tokens are those of the trimmed pieces. -/
theorem tokens_eq_scan_trim (script : String) :
    tokens marker script =
      scan marker none (numbered 1 ((script.toList.splitOn '\n').map trim)) := by
  rw [← scan_pieces, ← scan_trimmed unblank, map_trimmed_pieces]

end

/-! ## Scripts that differ in blanks -/

/-- The scripts have as many lines, and two lines in the same place differ in the blanks
at their ends only. -/
structure SameLines (first second : String) : Prop where
  /-- There are as many newlines. -/
  count_eq : first.toList.count '\n' = second.toList.count '\n'
  /-- What newlines cut the scripts into is the same after trimming. -/
  trim_eq : ∀ (index : Nat) (line other : List Char),
    (first.toList.splitOn '\n')[index]? = some line →
    (second.toList.splitOn '\n')[index]? = some other → trim line = trim other

theorem sameLines_iff {first second : String} :
    SameLines first second ↔
      (first.toList.splitOn '\n').map trim = (second.toList.splitOn '\n').map trim := by
  constructor
  · rintro ⟨count_eq, trim_eq⟩
    refine List.ext_getElem ?_ ?_
    · simp only [List.length_map, length_splitOn_newline, count_eq]
    · intro index inside inside'
      simp only [List.getElem_map]
      exact trim_eq index _ _ (List.getElem?_eq_getElem _) (List.getElem?_eq_getElem _)
  · intro same
    constructor
    case count_eq =>
      have lengths := congrArg List.length same
      simpa only [List.length_map, length_splitOn_newline, Nat.add_right_cancel_iff] using lengths
    case trim_eq =>
      intro index line other found found'
      have there := congrArg (·[index]?) same
      simpa [found, found'] using there

instance (first second : String) : Decidable (SameLines first second) :=
  decidable_of_iff _ sameLines_iff.symm

/-- The marker gives the scripts the same tokens, and so the same book or error. -/
structure SameReading (marker : Marker) (first second : String) : Prop where
  /-- The tokens are the same, with their lines. -/
  tokens_eq : tokens marker first = tokens marker second
  /-- What is parsed is the same. -/
  parseText_eq : ∀ mode, parseText mode marker first = parseText mode marker second

theorem SameLines.sameReading {marker : Marker} (unblank : ∀ c ∈ marker.chars, isBlank c = false)
    {first second : String} (same : SameLines first second) :
    SameReading marker first second := by
  have tokens_eq : tokens marker first = tokens marker second := by
    rw [tokens_eq_scan_trim unblank, tokens_eq_scan_trim unblank, sameLines_iff.mp same]
  exact ⟨tokens_eq, fun mode => congrArg (parse mode) tokens_eq⟩

/-! ## Carriage returns -/

/-- A newline with a carriage return before it, or any other character. -/
def withReturn (c : Char) : List Char := if c = '\n' then ['\r', '\n'] else [c]

/-- The script with a carriage return before each newline. -/
def withReturns (script : String) : String := String.ofList (script.toList.flatMap withReturn)

theorem flatMap_withReturn {line : List Char} (closed : '\n' ∉ line) :
    line.flatMap withReturn = line := by
  have plain : ∀ c ∈ line, withReturn c = [c] := by
    intro c inside
    refine if_neg ?_
    rintro rfl
    exact closed inside
  rw [List.flatMap_congr plain, List.flatMap_singleton']

/-- Each line but the last gets a carriage return at its end. -/
theorem map_trim_splitOn_withReturn {lines : List (List Char)} (nonempty : lines ≠ [])
    (closed : ∀ line ∈ lines, '\n' ∉ line) :
    (((['\n'].intercalate lines).flatMap withReturn).splitOn '\n').map trim = lines.map trim := by
  induction lines with
  | nil => exact absurd rfl nonempty
  | cons line others ih =>
    obtain ⟨here, later⟩ := List.forall_mem_cons.mp closed
    cases others with
    | nil =>
      rw [List.intercalate_singleton, flatMap_withReturn here, List.splitOn_eq_singleton here]
    | cons next more =>
      have ended : '\n' ∉ line ++ ['\r'] := by simpa using here
      have ret : ∀ c ∈ ['\r'], isBlank c = true := List.forall_mem_singleton.mpr (by decide)
      have shape : (['\n'].intercalate (line :: next :: more)).flatMap withReturn =
          (line ++ ['\r']) ++ '\n' :: (['\n'].intercalate (next :: more)).flatMap withReturn := by
        rw [List.intercalate_cons_cons, List.flatMap_append, List.flatMap_append,
          flatMap_withReturn here, List.append_assoc, List.append_assoc]
        rfl
      rw [shape, List.splitOn_append_cons_self_of_not_mem ended, List.map_cons,
        trim_append_blanks ret, ih (List.cons_ne_nil next more) later]
      rfl

theorem sameLines_withReturns (script : String) : SameLines (withReturns script) script := by
  have cut := map_trim_splitOn_withReturn (List.splitOn_ne_nil '\n' script.toList)
    fun line isLine => newline_not_mem_of_mem_splitOn isLine
  rw [List.intercalate_splitOn] at cut
  rw [sameLines_iff, withReturns, String.toList_ofList, cut]

/-! ## Indented lines -/

/-- The script with a text before and behind each line.  Lines are counted from zero. -/
def padLines (before after : Nat → List Char) (script : String) : String :=
  String.ofList (['\n'].intercalate
    ((script.toList.splitOn '\n').mapIdx fun index line => before index ++ line ++ after index))

/-- What is put at the ends of a line is blank and goes on the line. -/
def ArePads (before after : Nat → List Char) : Prop :=
  ∀ index, ∀ c ∈ before index ++ after index, isBlank c = true ∧ c ≠ '\n'

theorem sameLines_padLines {before after : Nat → List Char} (pads : ArePads before after)
    (script : String) : SameLines (padLines before after script) script := by
  have closed : ∀ line ∈ (script.toList.splitOn '\n').mapIdx
      fun index line => before index ++ line ++ after index, '\n' ∉ line := by
    intro padded isPadded
    obtain ⟨index, inside, rfl⟩ := List.mem_mapIdx.mp isPadded
    have here : '\n' ∉ (script.toList.splitOn '\n')[index] :=
      newline_not_mem_of_mem_splitOn (List.getElem_mem inside)
    intro newline
    rw [List.append_assoc, List.mem_append, List.mem_append] at newline
    rcases newline with inFront | inLine | behind
    · exact (pads index _ (List.mem_append_left _ inFront)).2 rfl
    · exact here inLine
    · exact (pads index _ (List.mem_append_right _ behind)).2 rfl
  have nonempty : (script.toList.splitOn '\n').mapIdx
      (fun index line => before index ++ line ++ after index) ≠ [] := by
    simp [List.splitOn_ne_nil]
  rw [sameLines_iff, padLines, String.toList_ofList, List.splitOn_intercalate '\n' closed nonempty]
  refine List.ext_getElem (by simp) ?_
  intro index inside inside'
  obtain ⟨front, back⟩ := List.forall_mem_append.mp (pads index)
  simp only [List.getElem_map, List.getElem_mapIdx]
  rw [trim_append_blanks fun c mem => (back c mem).1,
    trim_blanks_append fun c mem => (front c mem).1]

/-! ## Any blanks -/

theorem unblank_markerChars {markerText : String}
    (unblank : ∀ c ∈ markerText.toList, isBlank c = false) :
    ∀ c ∈ (Marker.ofString markerText).chars, isBlank c = false := by
  have slashes : "//".toList.all (!isBlank ·) = true := by decide
  rw [Marker.chars_ofString, markerChars]
  split
  · simpa using slashes
  · exact unblank

/-- With a marker that has no blank, the blanks at the ends of the lines do not matter.  So
carriage returns may be put before the newlines, and lines may be indented or followed by
blanks. -/
theorem sameReading_of_marker_unblank (markerText : String)
    (unblank : ∀ c ∈ markerText.toList, isBlank c = false) :
    (∀ first second, SameLines first second →
        SameReading (.ofString markerText) first second) ∧
      (∀ script, SameReading (.ofString markerText) (withReturns script) script) ∧
      ∀ before after, ArePads before after →
        ∀ script, SameReading (.ofString markerText) (padLines before after script) script := by
  have clear := unblank_markerChars unblank
  refine ⟨fun first second same => same.sameReading clear, fun script => ?_, ?_⟩
  · exact (sameLines_withReturns script).sameReading clear
  · intro before after pads script
    exact (sameLines_padLines pads script).sameReading clear

/-- A directive, a paragraph of two lines with an indented one, and a directive without a
text, where the last line is not ended. -/
def plainLines : String := "# book\nThe title\n of it\n#"

/-- The same lines with other blanks at their ends. -/
def paddedLines : String := "\u3000# book \r\n\tThe title\r\nof it\u00A0\n  #\u2028"

theorem sameReading_paddedLines :
    (∀ c ∈ "#".toList, isBlank c = false) ∧ SameLines paddedLines plainLines ∧
      SameReading (.ofString "#") paddedLines plainLines ∧
      SameReading (.ofString "#") (withReturns plainLines) plainLines ∧
      ArePads (fun _ => [' ']) (fun index => List.replicate index '\t') ∧
      SameReading (.ofString "#")
        (padLines (fun _ => [' ']) (fun index => List.replicate index '\t') plainLines) plainLines ∧
      tokens (.ofString "#") plainLines =
        [.directive "book" 1, .paragraph "The title\nof it" 2, .directive "" 4] := by
  have sign : "#".toList.all (!isBlank ·) = true := by decide
  have unblank : ∀ c ∈ "#".toList, isBlank c = false := by simpa using sign
  have same : SameLines paddedLines plainLines := by decide +kernel
  have pads : ArePads (fun _ => [' ']) (fun index => List.replicate index '\t') := by
    intro index c inside
    have either : c = ' ' ∨ c = '\t' := by
      rcases List.mem_append.mp inside with space | tab
      · exact .inl (List.mem_singleton.mp space)
      · exact .inr (List.eq_of_mem_replicate tab)
    rcases either with rfl | rfl <;> decide
  have scanned : tokens (.ofString "#") plainLines =
      [.directive "book" 1, .paragraph "The title\nof it" 2, .directive "" 4] := by
    rw [tokens_eq]
    decide +kernel
  obtain ⟨lines, returns, padded⟩ := sameReading_of_marker_unblank "#" unblank
  exact ⟨unblank, same, lines _ _ same, returns plainLines, pads, padded _ _ pads plainLines,
    scanned⟩

/-- A space at the end of the marker is not found where the line ends before it. -/
example : SameLines "# " "#" ∧ (Marker.ofString "# ").role "# ".toList = .directive [] ∧
    (Marker.ofString "# ").role "#".toList = .text ['#'] := by
  decide +kernel

end Gamebook.Script
