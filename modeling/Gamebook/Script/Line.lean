/-!
# Physical lines

A script is read line by line.  A line ends at a newline or at the end of the
text.  An empty remainder is no line, so a newline at the very end of the text
does not begin another one.  A carriage return right before the end of a line
belongs to the line end and not to the line.

A `LineReader` is what is left to read together with the number of the line
that comes next.  Reading takes at least one character, which is why `lines`
ends.  A `LineCursor` reads the same lines by byte offsets.
-/

namespace Gamebook.Script

/-- A line of the script without its line end. -/
structure Line where
  /-- The characters of the line. -/
  text : List Char
  /-- Its number, counted from one. -/
  number : Nat
  deriving DecidableEq

/-- A place between two lines of a script. -/
structure LineReader where
  /-- The characters not read yet. -/
  rest : List Char
  /-- The number of the line that comes next. -/
  number : Nat
  deriving DecidableEq

namespace LineReader

/-- The place before the first line. -/
def ofString (script : String) : LineReader := ⟨script.toList, 1⟩

/-- The text without one carriage return at its end. -/
def dropReturn (text : List Char) : List Char :=
  if text.getLast? = some '\r' then text.dropLast else text

/-- Reads one line, if there is anything left. -/
def read? (reader : LineReader) : Option (Line × LineReader) :=
  if reader.rest = [] then none
  else
    let piece := reader.rest.takeWhile (· ≠ '\n')
    let after := (reader.rest.dropWhile (· ≠ '\n')).drop 1
    some (⟨dropReturn piece, reader.number⟩, ⟨after, reader.number + 1⟩)

/-- Reading a line takes something from the text. -/
theorem rest_length_lt_of_read? {reader next : LineReader} {line : Line}
    (h : reader.read? = some (line, next)) : next.rest.length < reader.rest.length := by
  unfold read? at h
  split at h
  · cases h
  next nonempty =>
    obtain ⟨-, rfl⟩ := Prod.mk.inj (Option.some.inj h)
    have dropped := (List.dropWhile_sublist (l := reader.rest) (· ≠ '\n')).length_le
    have positive := List.length_pos_iff.mpr nonempty
    simp only [List.length_drop]
    omega

/-- Every line that is left. -/
def lines (reader : LineReader) : List Line :=
  match _h : reader.read? with
  | none => []
  | some (line, next) => line :: next.lines
  termination_by reader.rest.length
  decreasing_by exact rest_length_lt_of_read? _h

/-- Where nothing can be read there are no lines. -/
theorem lines_of_read?_eq_none {reader : LineReader} (h : reader.read? = none) :
    reader.lines = [] := by
  rw [lines]
  split
  · rfl
  next found => rw [h] at found; cases found

/-- The lines are the one that is read and those that are left after it. -/
theorem lines_of_read?_eq_some {reader next : LineReader} {line : Line}
    (h : reader.read? = some (line, next)) : reader.lines = line :: next.lines := by
  rw [lines]
  split
  next found => rw [h] at found; cases found
  next found =>
    rw [h] at found
    obtain ⟨rfl, rfl⟩ := Prod.mk.inj (Option.some.inj found)
    rfl

end LineReader

end Gamebook.Script
