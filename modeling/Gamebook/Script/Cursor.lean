import Gamebook.Script.Line

/-!
# Lines by byte offsets

A script is kept as the bytes of its characters, and its lines are read by
offsets into these bytes.  A `LineCursor` is the offset at which the next line
begins, with the number of that line.  A reading looks for the next newline
byte.  One carriage return right before it belongs to the line end, and so does
one at the end of the script.  What is between the offsets is the line.

Text is taken between two offsets only if both stand between characters, in
their order (`slice?`).  A reading that finds such offsets wrong is `torn`.

A `LineReader` reads the same lines from what is left of the characters.
-/

namespace Gamebook.Script

/-! ## Bytes of a script -/

/-- The byte at an offset, if there is one. -/
def byte? (script : String) (offset : Nat) : Option UInt8 :=
  if inside : offset < script.utf8ByteSize then some (script.getUTF8Byte ⟨offset⟩ inside) else none

/-- The offset of the first newline at an offset or behind it. -/
def newline? (script : String) (offset : Nat) : Option Nat :=
  if offset < script.utf8ByteSize then
    if byte? script offset = some '\n'.toUInt8 then some offset else newline? script (offset + 1)
  else none
  termination_by script.utf8ByteSize - offset

/-- The text between two offsets, if they are in order and neither of them is
inside of a character. -/
def slice? (script : String) (start stop : Nat) : Option String :=
  if bounds : (⟨start⟩ : String.Pos.Raw).IsValid script ∧
      (⟨stop⟩ : String.Pos.Raw).IsValid script ∧ start ≤ stop then
    some (script.extract (script.pos ⟨start⟩ bounds.1) (script.pos ⟨stop⟩ bounds.2.1))
  else none

/-! ## Cursors -/

/-- Where a line is in a script. -/
structure LineSpan where
  /-- The offset of its first byte. -/
  start : Nat
  /-- The offset behind its text. -/
  textEnd : Nat
  /-- The offset of its newline, or the end of the script. -/
  stop : Nat
  deriving DecidableEq

namespace LineSpan

/-- From an offset up to a line end, which may begin with a carriage return. -/
def upTo (script : String) (start stop : Nat) : LineSpan :=
  ⟨start,
    if start < stop ∧ byte? script (stop - 1) = some '\r'.toUInt8 then stop - 1 else stop,
    stop⟩

/-- The text of a line ends on the line. -/
theorem upTo_bounds (script : String) {start stop : Nat} (ordered : start ≤ stop) :
    (upTo script start stop).start ≤ (upTo script start stop).textEnd ∧
      (upTo script start stop).textEnd ≤ stop := by
  simp only [upTo]
  split
  next returned => omega
  next => exact ⟨ordered, Nat.le_refl stop⟩

/-- The offset behind the line and its newline, if it has one. -/
def next (script : String) (span : LineSpan) : Nat :=
  if span.stop < script.utf8ByteSize then span.stop + 1 else span.stop

end LineSpan

/-- A place between two lines of a script. -/
structure LineCursor where
  /-- The offset of the first byte that is not read yet. -/
  offset : Nat
  /-- The number of the line that comes next. -/
  number : Nat
  deriving DecidableEq

/-- What a reading comes to. -/
inductive LineReading where
  /-- Nothing is left to read. -/
  | ended
  /-- There is no text between the offsets. -/
  | torn
  /-- A line, and the place behind it. -/
  | line (line : Line) (next : LineCursor)
  deriving DecidableEq

namespace LineCursor

/-- The place before the first line. -/
def initial : LineCursor := ⟨0, 1⟩

/-- Where the line is that begins at the cursor. -/
def span (script : String) (cursor : LineCursor) : LineSpan :=
  .upTo script cursor.offset ((newline? script cursor.offset).getD script.utf8ByteSize)

example : span "\u00e9\r\nb" initial = ⟨0, 2, 3⟩ := by decide +kernel

/-- Reads one line, if there is anything left. -/
def read (script : String) (cursor : LineCursor) : LineReading :=
  if cursor.offset < script.utf8ByteSize then
    let span := cursor.span script
    match slice? script span.start span.textEnd with
    | none => .torn
    | some text => .line ⟨text.toList, cursor.number⟩ ⟨span.next script, cursor.number + 1⟩
  else .ended

/-! ## Progress -/

/-- A newline is looked for from the offset on. -/
theorem bounds_of_newline? {script : String} {offset stop : Nat}
    (found : newline? script offset = some stop) :
    offset ≤ stop ∧ stop < script.utf8ByteSize := by
  fun_induction newline? script offset with
  | case1 offset inside here =>
    cases found
    exact ⟨Nat.le_refl _, inside⟩
  | case2 offset inside elsewhere ih =>
    obtain ⟨behind, within⟩ := ih found
    exact ⟨Nat.le_of_succ_le behind, within⟩
  | case3 => cases found

/-- The offsets of a line are in order. -/
theorem span_bounds {script : String} {cursor : LineCursor}
    (inside : cursor.offset ≤ script.utf8ByteSize) :
    (cursor.span script).start ≤ (cursor.span script).textEnd ∧
      (cursor.span script).textEnd ≤ (cursor.span script).stop ∧
      (cursor.span script).stop ≤ script.utf8ByteSize := by
  rw [span]
  cases found : newline? script cursor.offset with
  | none =>
    obtain ⟨before, within⟩ := LineSpan.upTo_bounds script inside
    exact ⟨before, within, Nat.le_refl _⟩
  | some stop =>
    obtain ⟨ordered, whole⟩ := bounds_of_newline? found
    obtain ⟨before, within⟩ := LineSpan.upTo_bounds script ordered
    exact ⟨before, within, Nat.le_of_lt whole⟩

/-- What is read is the text of the span, and what is left begins behind it. -/
theorem of_read_eq_line {script : String} {cursor next : LineCursor} {line : Line}
    (found : cursor.read script = .line line next) :
    cursor.offset < script.utf8ByteSize ∧
      (∃ text, slice? script cursor.offset (cursor.span script).textEnd = some text ∧
        line = ⟨text.toList, cursor.number⟩) ∧
      next = ⟨(cursor.span script).next script, cursor.number + 1⟩ := by
  unfold read at found
  split at found
  next inside =>
    dsimp only at found
    split at found
    next => cases found
    next text taken =>
      obtain ⟨rfl, rfl⟩ := LineReading.line.inj found
      exact ⟨inside, ⟨text, taken, rfl⟩, rfl⟩
  next => cases found

/-- Lines are numbered one after the other. -/
theorem number_of_read {script : String} {cursor next : LineCursor} {line : Line}
    (found : cursor.read script = .line line next) : next.number = line.number + 1 := by
  obtain ⟨-, ⟨text, -, rfl⟩, rfl⟩ := of_read_eq_line found
  rfl

/-- A reading goes forward, and not behind the end of the script. -/
theorem offset_of_read {script : String} {cursor next : LineCursor} {line : Line}
    (found : cursor.read script = .line line next) :
    cursor.offset < next.offset ∧ next.offset ≤ script.utf8ByteSize := by
  obtain ⟨inside, -, rfl⟩ := of_read_eq_line found
  obtain ⟨before, within, whole⟩ := span_bounds (Nat.le_of_lt inside)
  have start : (cursor.span script).start = cursor.offset := rfl
  simp only [LineSpan.next]
  split <;> omega

/-- Every line that is left. -/
def lines (script : String) (cursor : LineCursor) : List Line :=
  match _h : cursor.read script with
  | .ended => []
  | .torn => []
  | .line line next => line :: next.lines script
  termination_by script.utf8ByteSize - cursor.offset
  decreasing_by
    have forward := offset_of_read _h
    omega

/-- Where the script has ended there are no lines. -/
theorem lines_of_read_eq_ended {script : String} {cursor : LineCursor}
    (h : cursor.read script = .ended) : cursor.lines script = [] := by
  rw [lines]
  split
  next => rfl
  next => rfl
  next found => rw [h] at found; cases found

/-- The lines are the one that is read and those that are left after it. -/
theorem lines_of_read_eq_line {script : String} {cursor next : LineCursor} {line : Line}
    (h : cursor.read script = .line line next) :
    cursor.lines script = line :: next.lines script := by
  rw [lines]
  split
  next found => rw [h] at found; cases found
  next found => rw [h] at found; cases found
  next found =>
    rw [h] at found
    obtain ⟨rfl, rfl⟩ := LineReading.line.inj found
    rfl

end LineCursor

end Gamebook.Script
