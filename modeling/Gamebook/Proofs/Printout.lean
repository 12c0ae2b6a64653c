import Gamebook.Proofs.BlankLines
import Gamebook.Proofs.Verdicts

/-!
# Printed lines

Commands print entries with a newline behind each.  A text *consists of* lines if it is those
lines in order, each with a newline behind it and none inside (`ConsistsOf`).  Then the lines are
all that a reader finds in it (`ConsistsOf.lineTexts_eq`).

An entry need not be a line.  What is printed consists of the lines of the entries
(`consistsOf_unlines`), and an entry has one line more than newlines.
-/

namespace Gamebook.Cli

open Gamebook.Script

/-! ## One line -/

/-- There is no newline in the text. -/
def OneLine (text : String) : Prop := '\n' ∉ text.toList

instance (text : String) : Decidable (OneLine text) :=
  inferInstanceAs (Decidable (¬ '\n' ∈ text.toList))

/-- A text is on one line exactly when its two parts are. -/
@[simp] theorem oneLine_append {first second : String} :
    OneLine (first ++ second) ↔ OneLine first ∧ OneLine second := by
  simp [OneLine]

theorem oneLine_repr (value : Nat) : OneLine value.repr :=
  (Json.noControls_num value).newline_not_mem

/-- Parts on one line each are on one line together, if what is between them is. -/
theorem oneLine_intercalate {separator : String} {parts : List String}
    (between : OneLine separator) (inside : ∀ part ∈ parts, OneLine part) :
    OneLine (separator.intercalate parts) := by
  induction parts with
  | nil =>
    rw [String.intercalate_nil]
    decide
  | cons part parts ih =>
    obtain ⟨first, others⟩ := List.forall_mem_cons.mp inside
    cases parts with
    | nil => rwa [String.intercalate_singleton]
    | cons second parts =>
      rw [String.intercalate_cons_cons, oneLine_append, oneLine_append]
      exact ⟨⟨first, between⟩, ih others⟩

/-! ## Lines -/

/-- The text is these lines in order, each with a newline behind it and none inside. -/
structure ConsistsOf (text : String) (lines : List String) : Prop where
  /-- Nothing else is in the text. -/
  text_eq : text = unlines lines
  /-- No line goes on behind a newline. -/
  oneLine : ∀ line ∈ lines, OneLine line

namespace ConsistsOf

variable {text : String} {lines : List String}

/-- Whoever cuts the text at its newlines finds the lines. -/
theorem lineTexts_eq (consists : ConsistsOf text lines) :
    lineTexts text.toList = lines.map String.toList := by
  rw [consists.text_eq]
  exact lineTexts_unlines consists.oneLine

end ConsistsOf

/-! ## Entries over several lines -/

/-- The lines of an entry. -/
def entryLines (entry : String) : List String := (entry.toList.splitOn '\n').map String.ofList

/-- How many newlines the text has. -/
def newlines (text : String) : Nat := text.toList.count '\n'

theorem newlines_eq_zero_iff {text : String} : newlines text = 0 ↔ OneLine text :=
  List.count_eq_zero

/-- Newlines are counted part by part. -/
theorem newlines_append (first second : String) :
    newlines (first ++ second) = newlines first + newlines second := by
  rw [newlines, String.toList_append, List.count_append]
  rfl

theorem newlines_join_cons (text : String) (texts : List String) :
    newlines (String.join (text :: texts)) = newlines text + newlines (String.join texts) := by
  rw [String.join_cons, newlines_append]

/-- Texts put together have no newline exactly when none of them has one. -/
theorem newlines_join_eq_zero_iff {texts : List String} :
    newlines (String.join texts) = 0 ↔ ∀ text ∈ texts, OneLine text := by
  induction texts with
  | nil => exact ⟨nofun, fun _ => rfl⟩
  | cons text rest ih =>
    rw [newlines_join_cons, Nat.add_eq_zero_iff, newlines_eq_zero_iff, ih, List.forall_mem_cons]

/-- An entry goes over one line more than it has newlines. -/
theorem length_entryLines (entry : String) : (entryLines entry).length = newlines entry + 1 := by
  rw [entryLines, List.length_map, length_splitOn_newline, newlines]

theorem oneLine_of_mem_entryLines {entry line : String} (isLine : line ∈ entryLines entry) :
    OneLine line := by
  obtain ⟨piece, isPiece, rfl⟩ := List.mem_map.mp isLine
  rw [OneLine, String.toList_ofList]
  exact newline_not_mem_of_mem_splitOn isPiece

theorem unlines_append (lines others : List String) :
    unlines (lines ++ others) = unlines lines ++ unlines others := by
  rw [unlines, List.map_append, String.join_append, unlines, unlines]

theorem toList_unlines (lines : List String) :
    (unlines lines).toList = (lines.map String.toList).flatMap (· ++ ['\n']) := by
  induction lines with
  | nil => rfl
  | cons line rest ih =>
    rw [unlines_cons, String.toList_append, String.toList_append, ih, List.map_cons,
      List.flatMap_cons]
    rfl

/-- An entry is printed as the lines it goes over. -/
theorem unlines_entryLines (entry : String) : unlines (entryLines entry) = entry ++ "\n" := by
  have pieces : (entryLines entry).map String.toList = entry.toList.splitOn '\n' := by
    simp [entryLines, Function.comp_def]
  apply String.toList_injective
  rw [toList_unlines, pieces, String.toList_append]
  cases split : entry.toList.splitOn '\n' with
  | nil => exact absurd split (List.splitOn_ne_nil _ _)
  | cons first others =>
    rw [← intercalate_append_newline, ← split, List.intercalate_splitOn]
    rfl

/-- Printed entries are their lines. -/
theorem consistsOf_unlines (entries : List String) :
    ConsistsOf (unlines entries) (entries.flatMap entryLines) := by
  constructor
  case text_eq =>
    induction entries with
    | nil => rfl
    | cons entry rest ih =>
      rw [List.flatMap_cons, unlines_append, unlines_entryLines, ← ih, unlines_cons]
  case oneLine =>
    exact List.forall_mem_flatMap.mpr fun _ _ _ isLine => oneLine_of_mem_entryLines isLine

/-- Each newline in an entry is one line more. -/
theorem length_flatMap_entryLines (entries : List String) :
    (entries.flatMap entryLines).length = entries.length + newlines (String.join entries) := by
  induction entries with
  | nil => rfl
  | cons entry rest ih =>
    rw [List.flatMap_cons, List.length_append, length_entryLines, ih, List.length_cons,
      newlines_join_cons]
    omega

end Gamebook.Cli
