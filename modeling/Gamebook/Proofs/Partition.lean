import Gamebook.Proofs.Cursors
import Gamebook.Proofs.Segments

/-!
# A script read to its end

Readings that come one after the other, each from the place where the one before
stopped, go through a script from its first character to its last
(`ReadsThrough`).  Each takes the text between two offsets and a line end behind
it.  The offsets say what that line end was, and with it the line is as it was
written (`LineCut.text_append_lineEnd`).

The induction is on a reader that the cursor tracks.  It gives the readings,
their lines and what they took (`Tracks.exists_readsThrough`).  What is to be
said of the offsets holds of each single reading.
-/

namespace Gamebook.Script

/-! ## Line ends -/

/-- What is between the text of a line and the next line. -/
def LineSpan.lineEnd (script : String) (span : LineSpan) : List Char :=
  (if span.textEnd < span.stop then ['\r'] else []) ++
    if span.stop < script.utf8ByteSize then ['\n'] else []

theorem LineReader.dropReturn_append (line : List Char) :
    dropReturn line ++ (if line.getLast? = some '\r' then ['\r'] else []) = line := by
  rw [dropReturn]
  split
  next ends => exact List.dropLast_append_getLast? '\r' ends
  next => exact List.append_nil line

/-- The text of a line is shorter than the line if it lost a carriage return. -/
theorem length_bytes_dropReturn_lt_iff (before line : List Char) :
    (bytes (before ++ LineReader.dropReturn line)).length < (bytes (before ++ line)).length ↔
      line.getLast? = some '\r' := by
  rw [length_bytes_append, length_bytes_append, LineReader.dropReturn]
  split
  next ends =>
    obtain ⟨front, rfl⟩ := List.getLast?_eq_some_iff.mp ends
    have return_pos := length_bytes_pos (List.cons_ne_nil '\r' [])
    rw [List.dropLast_concat, length_bytes_append]
    exact iff_of_true (by omega) ends
  next ends => exact iff_of_false (Nat.lt_irrefl _) ends

/-- With its line end a line is as it was written. -/
theorem LineCut.text_append_lineEnd {script : String} {before line newline rest : List Char}
    (cut : LineCut script before line newline rest) (number : Nat) :
    LineReader.dropReturn line ++
        (LineCursor.span script ⟨(bytes before).length, number⟩).lineEnd script =
      line ++ newline := by
  have broken : (if newline = ['\n'] then ['\n'] else []) = newline := by
    rcases cut.ends with rfl | ⟨rfl, -⟩ <;> rfl
  simp only [cut.span_eq, LineSpan.lineEnd, length_bytes_dropReturn_lt_iff, cut.stop_lt_iff, broken]
  rw [← List.append_assoc, LineReader.dropReturn_append]

/-! ## Readings in a row -/

/-- A line that was read. -/
structure TakenLine where
  /-- The place before it. -/
  before : LineCursor
  /-- The line. -/
  line : Line
  /-- The place behind it. -/
  after : LineCursor
  deriving DecidableEq

/-- The offsets between which the line was taken. -/
def TakenLine.span (script : String) (taken : TakenLine) : LineSpan := taken.before.span script

/-- The text of the line and the line end behind it. -/
def TakenLine.written (script : String) (taken : TakenLine) : List Char :=
  taken.line.text ++ (taken.span script).lineEnd script

/-- The lines that are read one after the other, until nothing is left to read. -/
inductive ReadsThrough (script : String) : LineCursor → List TakenLine → Prop
  /-- Nothing is left. -/
  | ended {cursor : LineCursor} (ended : cursor.read script = .ended) :
    ReadsThrough script cursor []
  /-- One more line is read. -/
  | line {cursor next : LineCursor} {line : Line} {later : List TakenLine}
    (read : cursor.read script = .line line next) (through : ReadsThrough script next later) :
    ReadsThrough script cursor (⟨cursor, line, next⟩ :: later)

namespace ReadsThrough

variable {script : String} {cursor : LineCursor} {taken others : List TakenLine}

theorem read_of_mem (through : ReadsThrough script cursor taken) :
    ∀ one ∈ taken, one.before.read script = .line one.line one.after := by
  induction through with
  | ended => nofun
  | line read _ ih => exact List.forall_mem_cons.mpr ⟨read, ih⟩

/-- From a place there is one way to the end. -/
theorem unique (through : ReadsThrough script cursor taken)
    (again : ReadsThrough script cursor others) : others = taken := by
  induction through generalizing others with
  | ended ended =>
    cases again with
    | ended => rfl
    | line read => rw [ended] at read; cases read
  | line read _ ih =>
    cases again with
    | ended ended => rw [ended] at read; cases read
    | line readAgain again =>
      rw [read] at readAgain
      obtain ⟨rfl, rfl⟩ := LineReading.line.inj readAgain
      rw [ih again]

end ReadsThrough

/-- A cursor reads through what its reader has left. -/
theorem LineCursor.Tracks.exists_readsThrough {script : String} {cursor : LineCursor}
    {reader : LineReader} (tracks : Tracks script cursor reader) :
    ∃ taken, ReadsThrough script cursor taken ∧ taken.map TakenLine.line = reader.lines ∧
      taken.flatMap (TakenLine.written script) = reader.rest := by
  induction reader using LineReader.lines.induct generalizing cursor with
  | case1 reader ended =>
    refine ⟨[], .ended (tracks.read_eq_ended ended), ?_, ?_⟩
    · rw [LineReader.lines_of_read?_eq_none ended, List.map_nil]
    · rw [LineReader.rest_eq_nil_of_read? ended, List.flatMap_nil]
  | case2 reader line next found ih =>
    obtain ⟨behind, read, tracksNext⟩ := tracks.read_eq_line found
    obtain ⟨later, through, lines, written⟩ := ih tracksNext
    obtain ⟨before, piece, newline, cut, -, shape, rfl, rfl, -⟩ := tracks.exists_cut found
    refine ⟨_, .line read through, ?_, ?_⟩
    · rw [List.map_cons, lines, LineReader.lines_of_read?_eq_some found]
    · rw [List.flatMap_cons, written, shape]
      exact congrArg (· ++ next.rest) (cut.text_append_lineEnd reader.number)

/-- If the lines that were read are those of some pieces, each of them is the
piece in its place. -/
theorem exists_piece_of_getElem? {taken : List TakenLine} {texts : List (List Char)}
    (lines : taken.map TakenLine.line = numbered 1 (texts.map LineReader.dropReturn))
    {index : Nat} {one : TakenLine} (found : taken[index]? = some one) :
    ∃ piece, texts[index]? = some piece ∧ one.line = ⟨LineReader.dropReturn piece, index + 1⟩ := by
  have line : (taken.map TakenLine.line)[index]? = some one.line := by
    rw [List.getElem?_map, found]
    rfl
  rw [lines, getElem?_numbered, List.getElem?_map, Option.map_map] at line
  obtain ⟨piece, isPiece, same⟩ := Option.map_eq_some_iff.mp line
  refine ⟨piece, isPiece, ?_⟩
  rw [← same, Nat.add_comm index]
  rfl

/-! ## The whole script -/

/-- The lines that are read make up the script. -/
structure Partitions (script : String) (taken : List TakenLine) : Prop where
  /-- They are read from the first character on until nothing is left. -/
  through : ReadsThrough script .initial taken
  /-- No other lines are read so. -/
  unique : ∀ others, ReadsThrough script .initial others → others = taken
  /-- There are as many as pieces between newlines, without an empty one at the end. -/
  length_eq : taken.length = (lineTexts script.toList).length
  /-- Each of them is a piece without one carriage return at its end, numbered from one. -/
  line_eq : ∀ (index : Nat) (one : TakenLine), taken[index]? = some one →
    ∃ piece, (lineTexts script.toList)[index]? = some piece ∧
      one.line = ⟨LineReader.dropReturn piece, index + 1⟩
  /-- Numbers of 32 bits are enough for fewer than 2^32 - 1 lines. -/
  fits : taken.length < UInt32.size - 1 → ∀ one ∈ taken, one.after.number < UInt32.size
  /-- Each reading goes forward, and not behind the end of the script. -/
  forward : ∀ one ∈ taken, one.before.offset < one.after.offset ∧
    one.after.offset ≤ script.utf8ByteSize
  /-- The offsets of a line are in order and in the script. -/
  bounds : ∀ one ∈ taken, (one.span script).start ≤ (one.span script).textEnd ∧
    (one.span script).textEnd ≤ (one.span script).stop ∧
    (one.span script).stop ≤ script.utf8ByteSize
  /-- The line is the text between them. -/
  slice : ∀ one ∈ taken, slice? script (one.span script).start (one.span script).textEnd =
    some (String.ofList one.line.text)
  /-- With their line ends they are the script. -/
  whole : taken.flatMap (TakenLine.written script) = script.toList

/-- A script is read line by line to its end, and what is read makes it up. -/
theorem exists_partitions (script : String) : ∃ taken, Partitions script taken := by
  obtain ⟨taken, through, lines, whole⟩ := (LineCursor.tracks_initial script).exists_readsThrough
  rw [LineReader.lines_eq] at lines
  refine ⟨taken, through, fun _ again => through.unique again, ?_,
    fun _ _ found => exists_piece_of_getElem? lines found, ?_, ?_, ?_, ?_, whole⟩
  · have lengths := congrArg List.length lines
    simpa [numbered, LineReader.ofString] using lengths
  · intro few one isTaken
    obtain ⟨index, found⟩ := List.mem_iff_getElem?.mp isTaken
    obtain ⟨inside, -⟩ := List.getElem?_eq_some_iff.mp found
    obtain ⟨piece, -, line⟩ := exists_piece_of_getElem? lines found
    have after := LineCursor.number_of_read (through.read_of_mem one isTaken)
    rw [line] at after
    dsimp only at after
    omega
  · intro one isTaken
    exact LineCursor.offset_of_read (through.read_of_mem one isTaken)
  · intro one isTaken
    obtain ⟨inside, -⟩ := LineCursor.of_read_eq_line (through.read_of_mem one isTaken)
    exact LineCursor.span_bounds (Nat.le_of_lt inside)
  · intro one isTaken
    obtain ⟨-, ⟨text, found, line⟩, -⟩ :=
      LineCursor.of_read_eq_line (through.read_of_mem one isTaken)
    rw [line, String.ofList_toList]
    exact found

end Gamebook.Script
