import Gamebook.Proofs.Words
import Gamebook.Script.Scan
import Mathlib.Data.List.Basic

/-!
# Lines and their roles

How a line that was written is read again.  A line without newlines is read as
it is, if a newline comes after it and no carriage return stands at its end.  A
marker with a text behind it is read as that directive, and a *text line* is
read as that text.
-/

namespace Gamebook.Script

open Gamebook.Text

/-! ## Reading lines -/

theorem newline_not_mem_of_mem_splitOn {text line : List Char} (isLine : line ∈ text.splitOn '\n') :
    '\n' ∉ line := by
  rw [List.splitOn_eq_splitOnP] at isLine
  intro inside
  simpa using (of_mem_splitOnP isLine '\n' inside).2

namespace LineReader

theorem lines_nil (number : Nat) : lines ⟨[], number⟩ = [] :=
  lines_of_read?_eq_none rfl

/-- Where nothing is read, nothing is left. -/
theorem rest_eq_nil_of_read? {reader : LineReader} (ended : reader.read? = none) :
    reader.rest = [] := by
  unfold read? at ended
  split at ended
  next empty => exact empty
  next => cases ended

/-- The first line goes up to the first newline. -/
theorem lines_append {line : List Char} (closed : '\n' ∉ line) (rest : List Char)
    (number : Nat) :
    lines ⟨line ++ '\n' :: rest, number⟩ =
      ⟨dropReturn line, number⟩ :: lines ⟨rest, number + 1⟩ := by
  refine lines_of_read?_eq_some ?_
  have inside : ∀ c ∈ line, decide (c ≠ '\n') = true := by
    intro c isMember
    simp only [ne_eq, decide_eq_true_eq]
    rintro rfl
    exact closed isMember
  have taken : (line ++ '\n' :: rest).takeWhile (· ≠ '\n') = line := by
    rw [List.takeWhile_append_of_pos inside]
    simp
  have dropped : (line ++ '\n' :: rest).dropWhile (· ≠ '\n') = '\n' :: rest := by
    rw [List.dropWhile_append_of_pos inside]
    simp
  rw [read?, if_neg (by simp)]
  simp only [taken, dropped, List.drop_one, List.tail_cons]

theorem dropReturn_of_trimmed {line : List Char} (trimmed : trimEnd line = line) :
    dropReturn line = line := by
  rw [dropReturn, if_neg]
  intro atEnd
  have unblank := trimEnd_eq_self_iff.mp trimmed '\r' atEnd
  revert unblank
  decide

theorem mem_of_mem_dropReturn {line : List Char} {c : Char} (inside : c ∈ dropReturn line) :
    c ∈ line := by
  unfold dropReturn at inside
  split at inside
  · exact (List.dropLast_sublist line).subset inside
  · exact inside

/-- Only a blank is taken from the end of a line. -/
theorem exists_dropReturn_append (line : List Char) :
    ∃ after, (∀ c ∈ after, isBlank c = true) ∧ dropReturn line ++ after = line := by
  by_cases ends : line.getLast? = some '\r'
  · obtain ⟨front, rfl⟩ := List.getLast?_eq_some_iff.mp ends
    have ret : ∀ c ∈ ['\r'], isBlank c = true := List.forall_mem_singleton.mpr (by decide)
    exact ⟨['\r'], ret, by rw [dropReturn, if_pos ends, List.dropLast_concat]⟩
  · exact ⟨[], nofun, by rw [dropReturn, if_neg ends, List.append_nil]⟩

/-- What is read goes up to the first newline.  Without one it is all that is left. -/
theorem of_read?_eq_some {reader next : LineReader} {line : Line}
    (found : reader.read? = some (line, next)) :
    ∃ piece, '\n' ∉ piece ∧ line = ⟨dropReturn piece, reader.number⟩ ∧
      (reader.rest = piece ∧ piece ≠ [] ∧ next = ⟨[], reader.number + 1⟩ ∨
        ∃ rest, reader.rest = piece ++ '\n' :: rest ∧ next = ⟨rest, reader.number + 1⟩) := by
  unfold read? at found
  split at found
  next => cases found
  next nonempty =>
    cases found
    have whole := List.takeWhile_append_dropWhile (p := (· ≠ '\n')) (l := reader.rest)
    have stops := List.head?_dropWhile_not (· ≠ '\n') reader.rest
    refine ⟨reader.rest.takeWhile (· ≠ '\n'), ?_, rfl, ?_⟩
    · intro inside
      have notClosed := List.all_eq_true.mp List.all_takeWhile _ inside
      simp at notClosed
    · cases after : reader.rest.dropWhile (· ≠ '\n') with
      | nil =>
        rw [after, List.append_nil] at whole
        exact .inl ⟨whole.symm, whole.symm ▸ nonempty, rfl⟩
      | cons c rest =>
        rw [after] at stops whole
        obtain rfl : c = '\n' := by simpa using stops
        exact .inr ⟨rest, whole.symm, rfl⟩

theorem newline_not_mem (reader : LineReader) : ∀ line ∈ reader.lines, '\n' ∉ line.text := by
  induction reader using lines.induct with
  | case1 reader ended =>
    rw [lines_of_read?_eq_none ended]
    simp
  | case2 reader line next found ih =>
    obtain ⟨piece, closed, rfl, -⟩ := of_read?_eq_some found
    rw [lines_of_read?_eq_some found, List.forall_mem_cons]
    exact ⟨fun inside => closed (mem_of_mem_dropReturn inside), ih⟩

end LineReader

/-! ## Roles -/

/-- The line reads as text, and as nothing but itself. -/
structure IsTextLine (marker : Marker) (line : List Char) : Prop where
  /-- There is something on it. -/
  ne_nil : line ≠ []
  /-- There are no blanks at its ends. -/
  trimmed : trim line = line
  /-- It is one line. -/
  closed : '\n' ∉ line
  /-- It does not begin with the marker. -/
  unmarked : ¬ marker.chars <+: line

namespace Marker

variable {marker : Marker} {line : List Char}

theorem role_of_isTextLine (isText : IsTextLine marker line) : marker.role line = .text line := by
  obtain ⟨started, ended⟩ := trim_eq_self_iff.mp isText.trimmed
  have unmarked : marker.chars.isPrefixOf? line = none := by
    cases found : marker.chars.isPrefixOf? line with
    | none => rfl
    | some payload =>
      exact absurd ⟨payload, List.isPrefixOf?_eq_some_iff_append_eq.mp found⟩ isText.unmarked
  obtain ⟨c, rest, rfl⟩ := List.exists_cons_of_ne_nil isText.ne_nil
  rw [role, started]
  simp only [unmarked, ended]

/-- A directive is read back from a line with the marker and a space in front. -/
theorem role_append {payload : List Char} (begins : ∀ c, marker.chars.head? = some c →
    isBlank c = false) (trimmed : trim payload = payload) :
    marker.role (marker.chars ++ ' ' :: payload) = .directive payload := by
  obtain ⟨c, rest, chars⟩ := List.exists_cons_of_ne_nil marker.chars_ne_nil
  have started : trimStart (marker.chars ++ ' ' :: payload) = marker.chars ++ ' ' :: payload := by
    refine trimStart_eq_self_iff.mpr ?_
    intro first atHead
    apply begins first
    rw [chars] at atHead ⊢
    exact atHead
  have found : marker.chars.isPrefixOf? (marker.chars ++ ' ' :: payload) = some (' ' :: payload) :=
    List.isPrefixOf?_eq_some_iff_append_eq.mpr rfl
  have spaced : trim (' ' :: payload) = payload := by
    have skipped : trimStart (' ' :: payload) = trimStart payload := rfl
    rw [trim, skipped, ← trim, trimmed]
  have nonempty : marker.chars ++ ' ' :: payload ≠ [] := by simp
  obtain ⟨first, others, whole⟩ := List.exists_cons_of_ne_nil nonempty
  rw [role, started]
  rw [whole] at found ⊢
  simp only [found, spaced]

theorem of_role_directive {payload : List Char}
    (isDirective : marker.role line = .directive payload) :
    trim payload = payload ∧ ∀ c ∈ payload, c ∈ line := by
  unfold role at isDirective
  split at isDirective
  next => cases isDirective
  next first rest started =>
    split at isDirective
    next after found =>
      cases isDirective
      refine ⟨trim_trim, ?_⟩
      intro c inside
      have split := List.isPrefixOf?_eq_some_iff_append_eq.mp found
      refine (List.dropWhile_sublist isBlank).subset (?_ : c ∈ trimStart line)
      rw [started, ← split]
      exact List.mem_append_right _ (mem_of_mem_trim inside)
    next => cases isDirective

theorem isTextLine_of_role {content : List Char} (closed : '\n' ∉ line)
    (isText : marker.role line = .text content) : IsTextLine marker content := by
  unfold role at isText
  split at isText
  next => cases isText
  next first rest started =>
    split at isText
    next => cases isText
    next notFound =>
      cases isText
      have unblank := isBlank_head_trimStart started
      rw [← started] at notFound ⊢
      refine ⟨?_, trim_trim, ?_, ?_⟩
      · intro empty
        have allBlank := trimEnd_eq_nil_iff.mp empty first (by rw [started]; exact .head _)
        simp [unblank] at allBlank
      · intro inside
        exact closed (mem_of_mem_trim inside)
      · intro marked
        obtain ⟨after, split⟩ := marked.trans trimEnd_isPrefix
        rw [List.isPrefixOf?_eq_some_iff_append_eq.mpr split] at notFound
        cases notFound

end Marker

end Gamebook.Script
