import Gamebook.Proofs.Positions
import Gamebook.Proofs.Segments

/-!
# The line that an error points at

An error of a script has the number of a line.  It is the number that the token of
the error got when the script was scanned, however many lines and tokens lie
between the scan of the token and the failure.

A token begins on the first line of its segment.  So this line is not blank, a
directive is what stands behind the marker on it, and a paragraph has its trimmed
text as first line (`Token.beginsOn_of_mem`).  A paragraph takes in all text lines
that stand together, so the line before it is blank or a directive.

The numbers of the tokens increase (`pairwise_line_tokens`).  So the last `if` of
the tokens is the last `if` of the lines.
-/

namespace Gamebook.Script

open Gamebook.Text

/-! ## Numbered lines -/

theorem pairwise_numbered (number : Nat) (texts : List (List Char)) :
    (numbered number texts).Pairwise fun line next => line.number < next.number := by
  refine List.pairwise_iff_getElem.mpr ?_
  intro index later inside laterInside below
  simp only [numbered, List.getElem_mapIdx]
  omega

/-- The lines of a script are numbered from one, and there is no newline on them. -/
theorem of_getElem?_pieces {script : String} {index : Nat} {line : Line}
    (found : (pieces script)[index]? = some line) :
    line.number = index + 1 ∧ '\n' ∉ line.text := by
  rw [pieces, getElem?_numbered, List.getElem?_map, Option.map_map] at found
  obtain ⟨piece, isPiece, rfl⟩ := Option.map_eq_some_iff.mp found
  refine ⟨Nat.add_comm 1 index, ?_⟩
  intro inside
  exact newline_not_mem_of_mem_splitOn (List.mem_of_getElem? isPiece)
    (LineReader.mem_of_mem_dropReturn inside)

theorem newline_not_mem_of_mem_pieces {script : String} {line : Line}
    (inside : line ∈ pieces script) : '\n' ∉ line.text := by
  obtain ⟨index, found⟩ := List.mem_iff_getElem?.mp inside
  exact (of_getElem?_pieces found).2

/-! ## Segments in their place -/

section Segments

variable {marker : List Char} {lines segment : List Line}

/-- Lines of which each two neighbours are text are all text. -/
theorem isText_of_isChain {first : Line} {others : List Line}
    (chain : (first :: others).IsChain fun line next =>
      (line.isText marker && next.isText marker) = true) :
    ∀ line ∈ others, line.isText marker = true := by
  induction others generalizing first with
  | nil => nofun
  | cons next rest ih =>
    obtain ⟨both, later⟩ := List.isChain_cons_cons.mp chain
    exact List.forall_mem_cons.mpr ⟨(Bool.and_eq_true_iff.mp both).2, ih later⟩

/-- Where a text line begins a segment, the line before it is not text. -/
theorem not_isText_of_isChain {front back : List (List Line)} {first previous : Line}
    {others : List Line} (isText : first.isText marker = true)
    (chain : (front ++ (first :: others) :: back).IsChain fun segment next =>
      ∃ (given : segment ≠ []) (given' : next ≠ []),
        ((segment.getLast given).isText marker && (next.head given').isText marker) = false)
    (before : front.flatten.getLast? = some previous) : previous.isText marker = false := by
  rcases List.eq_nil_or_concat front with rfl | ⟨earlier, last, rfl⟩
  · cases before
  · obtain ⟨-, -, boundary⟩ := List.isChain_append.mp chain
    obtain ⟨given, _, apart⟩ := boundary last (by simp) (first :: others) rfl
    have same : last.getLast given = previous := by
      rw [List.concat_eq_append, List.flatten_append, List.flatten_singleton,
        List.getLast?_append_of_ne_nil _ given, List.getLast?_eq_some_getLast given] at before
      exact Option.some.inj before
    rw [List.head_cons, isText, Bool.and_true, same] at apart
    exact apart

/-- A segment is somewhere in the lines.  If its first line is text, so are the
others, and the line before it is not. -/
theorem of_mem_segments (inside : segment ∈ segments marker lines) :
    ∃ before first others after, segment = first :: others ∧
      lines = before ++ first :: (others ++ after) ∧
      (first.isText marker = true →
        (∀ line ∈ others, line.isText marker = true) ∧
        ∀ line, before.getLast? = some line → line.isText marker = false) := by
  obtain ⟨first, others, rfl⟩ := List.exists_cons_of_ne_nil (List.ne_nil_of_mem_splitBy inside)
  have chain := List.isChain_of_mem_splitBy inside
  have boundaries := List.isChain_getLast_head_splitBy
    (fun (line next : Line) => line.isText marker && next.isText marker) lines
  have whole := List.flatten_splitBy
    (fun (line next : Line) => line.isText marker && next.isText marker) lines
  obtain ⟨front, back, split⟩ := List.append_of_mem inside
  rw [segments] at split
  rw [split] at boundaries whole
  refine ⟨front.flatten, first, others, back.flatten, rfl, ?_, ?_⟩
  · rw [← whole]
    simp
  · intro isText
    exact ⟨isText_of_isChain chain, fun line before =>
      not_isText_of_isChain isText boundaries before⟩

end Segments

/-! ## Tokens and the lines they begin on -/

/-- The token begins on the line with this index. -/
inductive Token.BeginsOn (marker : List Char) (lines : List Line) (index : Nat) :
    Token → Prop where
  /-- A directive is what stands behind the marker, trimmed. -/
  | directive {line : Line} {rest : List Char} {token : Token}
      (isDirective : token.kind = .directive) (found : lines[index]? = some line)
      (notBlank : line.isBlank = false)
      (marked : trimStart line.text = marker ++ rest) (text : token.text.toList = trim rest) :
      BeginsOn marker lines index token
  /-- The first line of a paragraph is the trimmed line.  Before it there is no
  line, or one that is blank or a directive. -/
  | paragraph {line : Line} {token : Token} (isParagraph : token.kind = .paragraph)
      (found : lines[index]? = some line) (notBlank : line.isBlank = false)
      (unmarked : ¬ marker <+: trimStart line.text)
      (text : (token.text.toList.splitOn '\n').head? = some (trim line.text))
      (apart : ∀ earlier previous, earlier + 1 = index → lines[earlier]? = some previous →
        previous.isBlank = true ∨ previous.isDirective marker = true) :
      BeginsOn marker lines index token

theorem Line.isBlank_or_isDirective {marker : List Char} {line : Line}
    (notText : line.isText marker = false) :
    line.isBlank = true ∨ line.isDirective marker = true := by
  cases blank : line.isBlank with
  | true => exact .inl rfl
  | false => exact .inr (by simpa [Line.isText, Line.isDirective, blank] using notText)

/-- A token has the number of the first line of its segment. -/
theorem of_segmentToken?_eq_some {marker : List Char} {first : Line} {others : List Line}
    {token : Token} (made : segmentToken? marker (first :: others) = some token) :
    token.line = first.number ∧
      (first.isDirective marker = true ∧
          token = .directive (String.ofList (first.payload marker)) first.number ∨
        first.isText marker = true ∧ token = .paragraph (String.ofList
          (['\n'].intercalate ((first :: others).map (trim ·.text)))) first.number) := by
  rw [segmentToken?] at made
  split at made
  next isDirective =>
    cases made
    exact ⟨rfl, .inl ⟨isDirective, rfl⟩⟩
  next =>
    split at made
    next isText =>
      cases made
      exact ⟨rfl, .inr ⟨isText, rfl⟩⟩
    next => cases made

section Tokens

variable {marker : Marker} {script : String} {token : Token}

/-- A token of a script begins on the line whose number it has. -/
theorem Token.beginsOn_of_mem (inside : token ∈ tokens marker script) : ∃ index,
    token.line = index + 1 ∧ token.BeginsOn marker.chars (pieces script) index := by
  rw [tokens_eq, List.mem_filterMap] at inside
  obtain ⟨segment, isSegment, made⟩ := inside
  obtain ⟨before, first, others, after, rfl, split, ofText⟩ := of_mem_segments isSegment
  have found : (pieces script)[before.length]? = some first := by rw [split]; simp
  obtain ⟨numbered, -⟩ := of_getElem?_pieces found
  obtain ⟨begins, ⟨isDirective, rfl⟩ | ⟨isText, rfl⟩⟩ := of_segmentToken?_eq_some made
  · refine ⟨before.length, begins.trans numbered, ?_⟩
    obtain ⟨notBlank, marked⟩ := Bool.and_eq_true_iff.mp isDirective
    obtain ⟨rest, whole⟩ := List.isPrefixOf_iff_prefix.mp marked
    refine .directive rfl found (by simpa using notBlank) whole.symm ?_
    show (String.ofList (first.payload marker.chars)).toList = trim rest
    rw [String.toList_ofList, Line.payload, ← whole, List.drop_left]
  · refine ⟨before.length, begins.trans numbered, ?_⟩
    obtain ⟨areText, apart⟩ := ofText isText
    obtain ⟨notBlank, unmarked⟩ := Bool.and_eq_true_iff.mp isText
    refine .paragraph rfl found (by simpa using notBlank) ?_ ?_ ?_
    · intro begins
      rw [List.isPrefixOf_iff_prefix.mpr begins] at unmarked
      cases unmarked
    · have trimmed : ∀ piece ∈ (first :: others).map (trim ·.text), '\n' ∉ piece := by
        intro piece isPiece newline
        obtain ⟨line, inSegment, rfl⟩ := List.mem_map.mp isPiece
        have inScript : line ∈ pieces script := by
          rw [split]
          simp only [List.mem_append, List.mem_cons] at inSegment ⊢
          tauto
        exact newline_not_mem_of_mem_pieces inScript (mem_of_mem_trim newline)
      show ((String.ofList (['\n'].intercalate
        ((first :: others).map (trim ·.text)))).toList.splitOn '\n').head? = _
      rw [String.toList_ofList, List.splitOn_intercalate '\n' trimmed (by simp)]
      rfl
    · intro earlier previous next previousFound
      have last : before.getLast? = some previous := by
        rw [List.getLast?_eq_getElem?, ← previousFound, split,
          List.getElem?_append_left (by omega)]
        congr 1
        omega
      exact Line.isBlank_or_isDirective (apart previous last)

/-- The numbers of the tokens increase. -/
theorem pairwise_line_tokens (marker : Marker) (script : String) :
    (tokens marker script).Pairwise fun token next => token.line < next.line := by
  have ordered : (segments marker.chars (pieces script)).flatten.Pairwise
      fun line next => line.number < next.number := by
    rw [segments, List.flatten_splitBy]
    exact pairwise_numbered _ _
  rw [tokens_eq]
  refine List.pairwise_filterMap.mpr ((List.pairwise_flatten.mp ordered).2.imp ?_)
  intro segment next apart token made token' made'
  cases segment with
  | nil => cases made
  | cons first others =>
    cases next with
    | nil => cases made'
    | cons first' others' =>
      rw [(of_segmentToken?_eq_some made).1, (of_segmentToken?_eq_some made').1]
      exact apart first (.head _) first' (.head _)

/-- No directive line is lost. -/
theorem mem_tokens_of_isDirective {line : Line} (inside : line ∈ pieces script)
    (isDirective : line.isDirective marker.chars = true) :
    Token.directive (String.ofList (line.payload marker.chars)) line.number ∈
      tokens marker script := by
  have notText : line.isText marker.chars = false := by
    simp_all [Line.isText, Line.isDirective]
  obtain ⟨before, after, split⟩ := List.append_of_mem inside
  rw [tokens_eq, split, segments_append_cons notText]
  refine List.mem_filterMap.mpr ⟨[line], by simp, ?_⟩
  simp [segmentToken?, isDirective]

end Tokens

/-! ## The line of an error -/

/-- The line is a directive with this keyword. -/
def Line.names (marker : List Char) (line : Line) (keyword : Keyword) : Bool :=
  line.isDirective marker &&
    (Token.directive (String.ofList (line.payload marker)) line.number).names keyword

/-- The keyword of a token does not depend on its line. -/
theorem Token.names_congr {token other : Token} (kind : token.kind = other.kind)
    (text : token.text = other.text) (keyword : Keyword) :
    token.names keyword = other.names keyword := by
  have reading : token.reading.keyword? = other.reading.keyword? := by
    rw [Token.reading, Token.reading, text, Directive.ofText, Directive.ofText]
    split <;> rfl
  rw [Token.names, Token.names, kind, reading]

/-- A token and the line it begins on are directives with the same keyword, or none
of the two is a directive. -/
theorem Token.BeginsOn.names_eq {marker : List Char} {lines : List Line} {index : Nat}
    {token : Token} {line : Line} (begins : token.BeginsOn marker lines index)
    (here : lines[index]? = some line) (keyword : Keyword) :
    line.names marker keyword = token.names keyword := by
  cases begins with
  | @directive _ rest _ isDirective found notBlank marked text =>
    obtain rfl := Option.some.inj (here.symm.trans found)
    have begins : line.isDirective marker = true := by
      have inFront : marker <+: trimStart line.text := ⟨rest, marked.symm⟩
      simp [Line.isDirective, notBlank, List.isPrefixOf_iff_prefix.mpr inFront]
    have payload : line.payload marker = trim rest := by
      rw [Line.payload, marked, List.drop_left]
    rw [Line.names, begins, Bool.true_and]
    refine Token.names_congr isDirective.symm ?_ keyword
    show String.ofList (line.payload marker) = token.text
    rw [payload, ← text, String.ofList_toList]
  | paragraph isParagraph found notBlank unmarked =>
    obtain rfl := Option.some.inj (here.symm.trans found)
    have plain : line.isDirective marker = false := by
      rw [Line.isDirective, notBlank, Bool.not_false, Bool.true_and, Bool.eq_false_iff]
      exact fun begins => unmarked (List.isPrefixOf_iff_prefix.mp begins)
    rw [Line.names, plain, Token.names_of_paragraph isParagraph, Bool.false_and]

section Errors

variable {mode : Mode} {tokens : List Token} {error : ParseError} {token : Token}

/-- An error of tokens points at one of them. -/
theorem ParseError.PointsInto.mem {position : Nat} (points : error.PointsInto tokens position)
    (pointed : error.token = some token) : token ∈ tokens := by
  by_cases atEnd : position = tokens.length
  · obtain ⟨-, opening, -, found⟩ := points.at_end atEnd
    exact List.mem_of_getElem? (found.symm.trans pointed)
  · by_cases untitled : error.kind = .missingTitle
    · obtain ⟨heading, opening, -, found, -, same, -⟩ := points.untitled untitled
      rw [pointed] at same
      cases behind : tokens[position + 1]? with
      | none =>
        rw [behind] at same
        exact List.mem_of_getElem? (found.trans same.symm)
      | some next =>
        rw [behind] at same
        exact List.mem_of_getElem? (behind.trans same.symm)
    · exact List.mem_of_getElem? ((points.here atEnd untitled).symm.trans pointed)

/-- Behind the last directive with a keyword, no token is one. -/
theorem names_eq_false_of_pairwise {keyword : Keyword} {opening : Nat} {later : Token}
    (ordered : tokens.Pairwise fun token next => token.line < next.line)
    (last : lastBefore? tokens keyword tokens.length = some opening)
    (found : tokens[opening]? = some token) (inside : later ∈ tokens)
    (behind : token.line < later.line) : later.names keyword = false := by
  obtain ⟨-, -, nothing⟩ := of_lastBefore?_eq_some last
  obtain ⟨position, within, rfl⟩ := List.mem_iff_getElem.mp inside
  have there : tokens[position]? = some tokens[position] := List.getElem?_eq_getElem within
  have after : opening < position := by
    by_contra before
    obtain ⟨openingWithin, rfl⟩ := List.getElem?_eq_some_iff.mp found
    rcases Nat.lt_or_eq_of_le (Nat.le_of_not_lt before) with below | rfl
    · have increases := List.pairwise_iff_getElem.mp ordered _ _ within openingWithin below
      omega
    · omega
  rw [← namesAt_of_found there keyword]
  exact nothing position after within

end Errors

/-- The last directive with a keyword begins on the last line that is one. -/
theorem names_of_lastBefore? {marker : Marker} {script : String} {token : Token}
    {keyword : Keyword} {opening index : Nat}
    (last : lastBefore? (tokens marker script) keyword (tokens marker script).length =
      some opening)
    (found : (tokens marker script)[opening]? = some token) (numbered : token.line = index + 1)
    (begins : token.BeginsOn marker.chars (pieces script) index) :
    (∀ line, (pieces script)[index]? = some line → line.names marker.chars keyword = true) ∧
      ∀ later line, index < later → (pieces script)[later]? = some line →
        line.names marker.chars keyword = false := by
  constructor
  · intro line here
    obtain ⟨-, named, -⟩ := of_lastBefore?_eq_some last
    rw [begins.names_eq here, ← namesAt_of_found found]
    exact named
  · intro later line behind there
    rw [Line.names]
    cases isDirective : line.isDirective marker.chars with
    | false => rfl
    | true =>
      have inside := mem_tokens_of_isDirective (List.mem_of_getElem? there) isDirective
      have increases : token.line < line.number := by
        rw [numbered, (of_getElem?_pieces there).1]
        omega
      rw [Bool.true_and]
      exact names_eq_false_of_pairwise (pairwise_line_tokens marker script) last found inside
        increases

/-- The error of a script has the number of the line that its token begins on.  If
the script ends in an open branch, this is the line of the last `if`. -/
theorem line_of_parseText_error {mode : Mode} {markerText script : String} {error : ParseError}
    {token : Token} (failed : (parseText mode (.ofString markerText) script).result = .error error)
    (pointed : error.token = some token) :
    ∃ index, error.line? = some (index + 1) ∧
      token.BeginsOn (markerChars markerText) (pieces script) index ∧
      ((parseText mode (.ofString markerText) script).position =
          (tokens (.ofString markerText) script).length →
        (∀ line, (pieces script)[index]? = some line →
          line.names (markerChars markerText) .openIf = true) ∧
        ∀ later line, index < later → (pieces script)[later]? = some line →
          line.names (markerChars markerText) .openIf = false) := by
  have given : tokens (.ofString markerText) script ≠ [] := by
    intro empty
    rw [parseText, empty] at failed
    cases failed
    cases pointed
  have points : error.PointsInto _ _ := (stops_of_parse failed).pointsInto given
  obtain ⟨index, line_eq, begins⟩ := Token.beginsOn_of_mem (points.mem pointed)
  rw [Marker.chars_ofString] at begins
  refine ⟨index, by rw [ParseError.line?, pointed]; exact congrArg some line_eq, begins, ?_⟩
  intro atEnd
  obtain ⟨-, opening, last, found⟩ := points.at_end atEnd
  rw [← Marker.chars_ofString] at begins ⊢
  exact names_of_lastBefore? last (found.symm.trans pointed) line_eq begins

/-- A script with blank lines, carriage returns and a paragraph of two lines. -/
def looseScript : String :=
  "// book\r\nThe title\nof the book\r\n\n  // chapter c\n\nC\n// section s\nS\n// if x\nInside\n"

/-- The branch that is not closed begins on the tenth line of the script. -/
theorem line_of_loose_if : ∃ error token index,
    (parseText .strict (.ofString "") looseScript).result = .error error ∧
      error.token = some token ∧ token = .directive "if x" 10 ∧
      error.line? = some (index + 1) ∧
      token.BeginsOn (markerChars "") (pieces looseScript) index ∧ index = 9 := by
  have scanned : tokens (.ofString "") looseScript =
      [.directive "book" 1, .paragraph "The title\nof the book" 2, .directive "chapter c" 5,
        .paragraph "C" 7, .directive "section s" 8, .paragraph "S" 9, .directive "if x" 10,
        .paragraph "Inside" 11] := by
    rw [tokens_eq, Marker.chars_ofString]
    decide +kernel
  have failed : (parseText .strict (.ofString "") looseScript).result =
      .error ⟨.neverClosed "x", some (.directive "if x" 10), ⟨some "c", some "s", some "x"⟩⟩ := by
    rw [parseText, scanned]
    rfl
  obtain ⟨index, line_eq, begins, -⟩ := line_of_parseText_error failed rfl
  have tenth : index = 9 := by simpa [ParseError.line?, Token.directive, eq_comm] using line_eq
  exact ⟨_, _, index, failed, rfl, rfl, line_eq, begins, tenth⟩

end Gamebook.Script
