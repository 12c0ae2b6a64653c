import Gamebook.Proofs.Bytes
import Gamebook.Proofs.Lines

/-!
# Cursors and readers

A cursor reads the lines that a reader reads.  A cursor *tracks* a reader if the
characters before its offset and those that the reader has left make the
script.  Then both are at the end, or both read the same line and the cursor
tracks the reader again (`Tracks.read_eq_line`).  No reading is torn.

What carries this is a script that is cut at one of its lines (`LineCut`).  The
offsets of that line are the lengths of what is before them
(`LineCut.span_eq`), and so the line is read (`LineCut.read_eq`).
-/

namespace Gamebook.Script

/-! ## A script cut at a line -/

/-- A line of the script, with its newline and with what is before and behind. -/
structure LineCut (script : String) (before line newline rest : List Char) : Prop where
  /-- This is the whole script. -/
  whole : script.toList = before ++ (line ++ (newline ++ rest))
  /-- It is one line. -/
  closed : '\n' ∉ line
  /-- There is a newline behind it, or it is the last line. -/
  ends : newline = ['\n'] ∨ newline = [] ∧ rest = []

namespace LineCut

variable {script : String} {before line newline rest : List Char}

theorem utf8ByteSize_eq (cut : LineCut script before line newline rest) :
    script.utf8ByteSize = (bytes (before ++ line)).length + (bytes (newline ++ rest)).length := by
  rw [Script.utf8ByteSize_eq, cut.whole, ← List.append_assoc, length_bytes_append]

/-- The search for a newline comes to the end of the line. -/
theorem newline?_eq (cut : LineCut script before line newline rest) :
    (newline? script (bytes before).length).getD script.utf8ByteSize =
      (bytes (before ++ line)).length := by
  have clear : (bytes line).findIdx? (· == '\n'.toUInt8) = none := by
    rw [List.findIdx?_eq_none_iff]
    intro byte inside
    rw [beq_eq_false_iff_ne]
    rintro rfl
    exact cut.closed ((mem_bytes_iff (by decide) line).mp inside)
  rw [Script.newline?_eq, cut.utf8ByteSize_eq, cut.whole, bytes_append before, List.drop_left,
    bytes_append line, List.findIdx?_append, clear, Option.none_or, length_bytes_append]
  rcases cut.ends with rfl | ⟨rfl, rfl⟩
  · have first : bytes (['\n'] ++ rest) = '\n'.toUInt8 :: bytes rest := rfl
    rw [first, List.findIdx?_cons, if_pos (beq_self_eq_true _)]
    simp only [Option.map_some, Option.getD_some, Nat.zero_add]
  · rfl

/-- The last byte of a line is a carriage return if its last character is one. -/
theorem byte?_eq_return_iff (cut : LineCut script before line newline rest)
    (nonempty : line ≠ []) :
    byte? script ((bytes (before ++ line)).length - 1) = some '\r'.toUInt8 ↔
      line.getLast? = some '\r' := by
  have inside : (bytes (before ++ line)).length - 1 < (bytes (before ++ line)).length :=
    Nat.sub_lt (length_bytes_pos (List.append_ne_nil_of_right_ne_nil _ nonempty)) Nat.one_pos
  rw [byte?_eq, cut.whole, ← List.append_assoc, bytes_append _ (newline ++ rest),
    List.getElem?_append_left inside, ← List.getLast?_eq_getElem?,
    getLast?_bytes_eq_iff (by decide), List.getLast?_append_of_ne_nil _ nonempty]

/-- The text ends where the line ends, but for one carriage return. -/
theorem upTo_eq (cut : LineCut script before line newline rest) :
    LineSpan.upTo script (bytes before).length (bytes (before ++ line)).length =
      ⟨(bytes before).length, (bytes (before ++ LineReader.dropReturn line)).length,
        (bytes (before ++ line)).length⟩ := by
  by_cases ends : line.getLast? = some '\r'
  · obtain ⟨front, rfl⟩ := List.getLast?_eq_some_iff.mp ends
    have last := (cut.byte?_eq_return_iff (by simp)).mpr ends
    have length : (bytes (before ++ (front ++ ['\r']))).length =
        (bytes (before ++ front)).length + 1 := by
      rw [← List.append_assoc, length_bytes_append]
      rfl
    have longer : (bytes before).length < (bytes (before ++ (front ++ ['\r']))).length := by
      rw [length, length_bytes_append]
      omega
    rw [LineSpan.upTo, if_pos ⟨longer, last⟩, length, LineReader.dropReturn, if_pos ends,
      List.dropLast_concat, Nat.add_sub_cancel]
  · rw [LineSpan.upTo, if_neg, LineReader.dropReturn, if_neg ends]
    rintro ⟨longer, last⟩
    refine ends ((cut.byte?_eq_return_iff ?_).mp last)
    rintro rfl
    rw [List.append_nil] at longer
    exact Nat.lt_irrefl _ longer

theorem span_eq (cut : LineCut script before line newline rest) (number : Nat) :
    LineCursor.span script ⟨(bytes before).length, number⟩ =
      ⟨(bytes before).length, (bytes (before ++ LineReader.dropReturn line)).length,
        (bytes (before ++ line)).length⟩ := by
  rw [LineCursor.span, cut.newline?_eq, cut.upTo_eq]

/-- A line that ends before the script does has a newline. -/
theorem stop_lt_iff (cut : LineCut script before line newline rest) :
    (bytes (before ++ line)).length < script.utf8ByteSize ↔ newline = ['\n'] := by
  rw [cut.utf8ByteSize_eq, Nat.lt_add_right_iff_pos]
  rcases cut.ends with rfl | ⟨rfl, rfl⟩
  · exact iff_of_true (length_bytes_pos (List.cons_ne_nil _ _)) rfl
  · exact iff_of_false (Nat.lt_irrefl 0) nofun

/-- The next line begins behind the newline. -/
theorem next_eq (cut : LineCut script before line newline rest) (start textEnd : Nat) :
    LineSpan.next script ⟨start, textEnd, (bytes (before ++ line)).length⟩ =
      (bytes (before ++ (line ++ newline))).length := by
  rw [LineSpan.next, ← List.append_assoc]
  split
  next inside =>
    rw [cut.stop_lt_iff.mp inside, length_bytes_append (before ++ line)]
    rfl
  next outside =>
    obtain ⟨last, -⟩ := cut.ends.resolve_left (mt cut.stop_lt_iff.mpr outside)
    rw [last, List.append_nil]

/-- The line is read, and what is left begins behind its newline. -/
theorem read_eq (cut : LineCut script before line newline rest) (nonempty : line ++ newline ≠ [])
    (number : Nat) :
    LineCursor.read script ⟨(bytes before).length, number⟩ =
      .line ⟨LineReader.dropReturn line, number⟩
        ⟨(bytes (before ++ (line ++ newline))).length, number + 1⟩ := by
  have inside : (bytes before).length < script.utf8ByteSize := by
    have taken := length_bytes_pos nonempty
    rw [length_bytes_append] at taken
    rw [cut.utf8ByteSize_eq, length_bytes_append, length_bytes_append]
    omega
  obtain ⟨returns, -, same⟩ := LineReader.exists_dropReturn_append line
  have whole : script.toList =
      before ++ (LineReader.dropReturn line ++ (returns ++ (newline ++ rest))) := by
    rw [cut.whole, ← List.append_assoc _ returns, same]
  rw [LineCursor.read, if_pos inside]
  simp only [cut.span_eq, slice?_eq whole, cut.next_eq, String.toList_ofList]

end LineCut

namespace LineCursor

/-! ## Cursors that track readers -/

/-- The reader has left what is behind the offset, and the next line has the
same number for both. -/
def Tracks (script : String) (cursor : LineCursor) (reader : LineReader) : Prop :=
  ∃ before, script.toList = before ++ reader.rest ∧
    cursor = ⟨(bytes before).length, reader.number⟩

theorem tracks_initial (script : String) : Tracks script initial (.ofString script) :=
  ⟨[], rfl, rfl⟩

variable {script : String} {cursor : LineCursor} {reader next : LineReader} {line : Line}

/-- At the end nothing is read. -/
theorem Tracks.read_eq_ended (tracks : Tracks script cursor reader)
    (ended : reader.read? = none) : cursor.read script = .ended := by
  obtain ⟨before, whole, rfl⟩ := tracks
  rw [LineReader.rest_eq_nil_of_read? ended, List.append_nil] at whole
  rw [read, utf8ByteSize_eq, whole, if_neg (Nat.lt_irrefl _)]

/-- What a reader reads is a line of the script that the cursor stands at. -/
theorem Tracks.exists_cut (tracks : Tracks script cursor reader)
    (found : reader.read? = some (line, next)) :
    ∃ before piece newline, LineCut script before piece newline next.rest ∧
      piece ++ newline ≠ [] ∧ reader.rest = piece ++ newline ++ next.rest ∧
      cursor = ⟨(bytes before).length, reader.number⟩ ∧
      line = ⟨LineReader.dropReturn piece, reader.number⟩ ∧ next.number = reader.number + 1 := by
  obtain ⟨before, whole, rfl⟩ := tracks
  obtain ⟨piece, closed, rfl, ⟨shape, nonempty, rfl⟩ | ⟨rest, shape, rfl⟩⟩ :=
    LineReader.of_read?_eq_some found
  · refine ⟨before, piece, [], ⟨?_, closed, .inr ⟨rfl, rfl⟩⟩, ?_, ?_, rfl, rfl, rfl⟩
    · rw [whole, shape, List.append_nil, List.append_nil]
    · rwa [List.append_nil]
    · rw [shape, List.append_nil, List.append_nil]
  · refine ⟨before, piece, ['\n'], ⟨?_, closed, .inl rfl⟩, ?_, ?_, rfl, rfl, rfl⟩
    · rw [whole, shape, List.singleton_append]
    · exact List.append_ne_nil_of_right_ne_nil _ (List.cons_ne_nil _ _)
    · rw [shape, List.append_assoc, List.singleton_append]

/-- The line that the reader reads is read, and after it the cursor tracks the
reader as before. -/
theorem Tracks.read_eq_line (tracks : Tracks script cursor reader)
    (found : reader.read? = some (line, next)) :
    ∃ behind, cursor.read script = .line line behind ∧ Tracks script behind next := by
  obtain ⟨before, piece, newline, cut, nonempty, -, rfl, rfl, number⟩ := tracks.exists_cut found
  refine ⟨_, cut.read_eq nonempty reader.number, before ++ (piece ++ newline), ?_, ?_⟩
  · rw [cut.whole, List.append_assoc, List.append_assoc]
  · rw [number]

/-- A cursor reads the lines of the reader that it tracks. -/
theorem Tracks.lines_eq (tracks : Tracks script cursor reader) :
    cursor.lines script = reader.lines := by
  induction reader using LineReader.lines.induct generalizing cursor with
  | case1 reader ended =>
    rw [LineReader.lines_of_read?_eq_none ended,
      lines_of_read_eq_ended (tracks.read_eq_ended ended)]
  | case2 reader line next found ih =>
    obtain ⟨behind, read, tracks⟩ := tracks.read_eq_line found
    rw [LineReader.lines_of_read?_eq_some found, lines_of_read_eq_line read, ih tracks]

end LineCursor

/-- The lines that are scanned are those of the reader. -/
theorem tokens_eq_scan_lines (marker : Marker) (script : String) :
    tokens marker script = scan marker none (LineReader.ofString script).lines :=
  congrArg (scan marker none) (LineCursor.tracks_initial script).lines_eq

end Gamebook.Script
