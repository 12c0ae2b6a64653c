import Gamebook.Proofs.Segments

/-!
# Scripts that meet at a blank line

A blank line ends whatever stands before it.  So a script can be cut at an empty
line, and the tokens of the whole are those of its two parts, one after the other.
Whether the first part ends in text, in a directive, in a carriage return or in a
newline of its own makes no difference, for its last piece is a line of the whole
either way.

Only the numbers of the lines depend on what stands before.  A scan carries the
numbers along and does not look at them, so it commutes with moving them
(`scan_later`).  They are not bounded.
-/

namespace Gamebook.Script

/-! ## The same further down -/

/-- The line, so many lines further down. -/
def Line.later (offset : Nat) (line : Line) : Line :=
  { line with number := line.number + offset }

/-- The token, so many lines further down. -/
def Token.later (offset : Nat) (token : Token) : Token :=
  { token with line := token.line + offset }

/-- The paragraph under collection, so many lines further down. -/
def Draft.later (offset : Nat) (draft : Draft) : Draft :=
  { draft with line := draft.line + offset }

section

variable {marker : Marker}

theorem map_later_numbered (offset number : Nat) (texts : List (List Char)) :
    (numbered number texts).map (.later offset) = numbered (number + offset) texts := by
  have moved := @map_numbered (.later offset) id offset (fun _ _ => rfl) number texts
  rwa [List.map_id] at moved

theorem Draft.close_later (offset : Nat) (draft : Option Draft) :
    close (draft.map (.later offset)) = (close draft).map (.later offset) := by
  cases draft <;> rfl

theorem Draft.extend_later (offset number : Nat) (draft : Option Draft) (content : List Char) :
    extend (draft.map (.later offset)) (number + offset) content =
      (extend draft number content).later offset := by
  cases draft <;> rfl

/-- Lines further down have their tokens further down. -/
theorem scan_later (offset : Nat) (draft : Option Draft) (lines : List Line) :
    scan marker (draft.map (.later offset)) (lines.map (.later offset)) =
      (scan marker draft lines).map (.later offset) := by
  induction lines generalizing draft with
  | nil => exact Draft.close_later offset draft
  | cons line lines ih =>
    have fresh := ih none
    rw [Option.map_none] at fresh
    rw [List.map_cons, scan, scan]
    simp only [Line.later]
    cases marker.role line.text with
    | blank => simp only [Draft.close_later, fresh, List.map_append]
    | directive payload =>
      simp only [Draft.close_later, fresh, List.map_append, List.map_cons]
      rfl
    | text content =>
      simp only [Draft.extend_later]
      exact ih (some _)

end

/-! ## Pieces around a blank line -/

/-- There is one piece more than there are newlines. -/
theorem length_splitOn_newline (text : List Char) :
    (text.splitOn '\n').length = text.count '\n' + 1 := by
  induction text with
  | nil => rfl
  | cons c rest ih =>
    rw [List.splitOn_cons_eq_if_modifyHead]
    cases isNewline : c == '\n' <;> simp [isNewline, ih, List.count_cons]

/-- The pieces of two texts with an empty line between them.  The line is empty,
and the numbers of the second text go on behind it. -/
theorem pieces_append_blank (before after : String) :
    pieces (before ++ "\n\n" ++ after) =
      pieces before ++ ⟨[], before.toList.count '\n' + 2⟩ ::
        (pieces after).map (.later (before.toList.count '\n' + 2)) := by
  have chars : (before ++ "\n\n" ++ after).toList =
      before.toList ++ '\n' :: ([] ++ '\n' :: after.toList) := by simp
  simp only [pieces, chars, List.splitOn_append_cons_self, List.splitOn_nil, List.map_append,
    numbered_append, List.map_cons, List.length_map, length_splitOn_newline,
    List.singleton_append, numbered_cons, map_later_numbered]
  have next : 1 + (before.toList.count '\n' + 1) = before.toList.count '\n' + 2 := by omega
  have behind : before.toList.count '\n' + 2 + 1 = 1 + (before.toList.count '\n' + 2) := by omega
  rw [next, behind]
  rfl

/-- Where an empty line stands between two scripts, the tokens are those of the
first and then those of the second, as many lines further down as there are newlines
before it. -/
theorem tokens_append_blank (marker : Marker) (before after : String) :
    tokens marker (before ++ "\n\n" ++ after) =
      tokens marker before ++
        (tokens marker after).map (.later (before.toList.count '\n' + 2)) := by
  calc
    tokens marker (before ++ "\n\n" ++ after)
      = scan marker none (pieces (before ++ "\n\n" ++ after)) := (scan_pieces _).symm
    _ = scan marker none (pieces before) ++
          scan marker none ((pieces after).map (.later (before.toList.count '\n' + 2))) := by
      rw [pieces_append_blank, scan_append_blank rfl]
    _ = tokens marker before ++
          (tokens marker after).map (.later (before.toList.count '\n' + 2)) := by
      rw [scan_pieces, ← Option.map_none, scan_later, scan_pieces]

end Gamebook.Script
