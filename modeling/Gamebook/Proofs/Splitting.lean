import Gamebook.Proofs.Rendering
import Mathlib.Logic.ExistsUnique

/-!
# Splitting a directive

The words of a text are its longest runs without a separator, trimmed, and those that are
then empty are dropped.  That a text *splits into* its longest runs is a relation
(`SplitsInto`).  A run has gaps around it, and the gap between two runs is not empty.
Every text splits in exactly one way, and the pieces of the text that are not empty are
its runs (`SplitsInto.eq_filter`).

What separates words is not all that is blank.  A tab stays inside a run, is trimmed at
the ends of it, and a run of tabs is no word.

Words are trimmed runs already, so a text that splits into words has just these
(`SplitsInto.words_eq`).  This gives the words of a directive back, whatever gaps are put
between them.  The name of a keyword is in lower case and comes back as well.
-/

namespace Gamebook.Text

variable {text gap run rest : List Char} {runs ws : List (List Char)} {c : Char}

/-! ## Gaps and runs -/

/-- The text consists of separators. -/
def IsGap (text : List Char) : Prop := ∀ c ∈ text, isSeparator c = true

instance (text : List Char) : Decidable (IsGap text) :=
  decidable_of_iff (text.all isSeparator = true) List.all_eq_true

theorem isGap_nil : IsGap [] := List.forall_mem_nil _

theorem IsGap.cons (isGap : IsGap gap) (separator : isSeparator c = true) : IsGap (c :: gap) :=
  List.forall_mem_cons.mpr ⟨separator, isGap⟩

/-- A run cannot go on with this text, since a separator or nothing comes first. -/
def EndsRun (rest : List Char) : Prop := ∀ c, rest.head? = some c → isSeparator c = true

instance (rest : List Char) : Decidable (EndsRun rest) :=
  decidable_of_iff (rest.head?.all isSeparator = true) (by cases rest <;> simp [EndsRun])

theorem IsGap.endsRun (isGap : IsGap gap) : EndsRun gap := fun _ first =>
  isGap _ (List.mem_of_mem_head? first)

/-- A gap in front ends a run, and if it is empty the text behind it has to. -/
theorem IsGap.endsRun_append_iff (isGap : IsGap gap) :
    EndsRun (gap ++ rest) ↔ gap ≠ [] ∨ EndsRun rest := by
  cases gap with
  | nil => simp
  | cons c gap =>
    have separator := isGap c (.head gap)
    simp [EndsRun, separator]

/-- The text has these longest runs without a separator, in order. -/
inductive SplitsInto : List Char → List (List Char) → Prop where
  /-- There is no run. -/
  | gap {gap : List Char} (isGap : IsGap gap) : SplitsInto gap []
  /-- A gap, the first run and a text that ends it. -/
  | run {gap run rest : List Char} {runs : List (List Char)} (isGap : IsGap gap)
      (nonempty : run ≠ []) (unseparated : ∀ c ∈ run, isSeparator c = false)
      (ended : EndsRun rest) (later : SplitsInto rest runs) :
      SplitsInto (gap ++ run ++ rest) (run :: runs)

namespace SplitsInto

/-- One more separator in front makes a gap longer or begins one, and changes no run. -/
theorem separator_cons (split : SplitsInto text runs) (separator : isSeparator c = true) :
    SplitsInto (c :: text) runs := by
  cases split with
  | gap isGap => exact .gap (isGap.cons separator)
  | run isGap nonempty unseparated ended later =>
    exact .run (isGap.cons separator) nonempty unseparated ended later

/-- A character that does not separate is in the first run if no gap is before that, and
otherwise a run of its own. -/
theorem exists_cons (split : SplitsInto text runs) (unseparated : isSeparator c = false) :
    ∃ runs, SplitsInto (c :: text) runs := by
  by_cases ended : EndsRun text
  · have alone : ∀ d ∈ [c], isSeparator d = false := by simpa using unseparated
    exact ⟨[c] :: runs, .run isGap_nil (List.cons_ne_nil c []) alone ended split⟩
  · cases split with
    | gap isGap => exact absurd isGap.endsRun ended
    | @run gap run rest runs isGap nonempty clear ended' later =>
      rw [List.append_assoc, isGap.endsRun_append_iff, not_or, Classical.not_not] at ended
      obtain ⟨rfl, -⟩ := ended
      have longer : ∀ d ∈ c :: run, isSeparator d = false :=
        List.forall_mem_cons.mpr ⟨unseparated, clear⟩
      exact ⟨(c :: run) :: runs, .run isGap_nil (List.cons_ne_nil c run) longer ended' later⟩

end SplitsInto

/-- Every text splits. -/
theorem exists_splitsInto (text : List Char) : ∃ runs, SplitsInto text runs := by
  induction text with
  | nil => exact ⟨[], .gap isGap_nil⟩
  | cons c text ih =>
    obtain ⟨runs, split⟩ := ih
    cases separator : isSeparator c with
    | true => exact ⟨runs, split.separator_cons separator⟩
    | false => exact split.exists_cons separator

/-! ## Runs and pieces -/

/-- A gap in front adds empty pieces only. -/
theorem filter_splitOnP_gap_append (isGap : IsGap gap) :
    ((gap ++ rest).splitOnP isSeparator).filter (!·.isEmpty) =
      (rest.splitOnP isSeparator).filter (!·.isEmpty) := by
  induction gap with
  | nil => rfl
  | cons c gap ih =>
    obtain ⟨separator, others⟩ := List.forall_mem_cons.mp isGap
    rw [List.cons_append, List.splitOnP_cons_eq_if_modifyHead, if_pos separator]
    exact ih others

/-- A run in front is a piece of its own. -/
theorem filter_splitOnP_run_append (nonempty : run ≠ [])
    (unseparated : ∀ c ∈ run, isSeparator c = false) (ended : EndsRun rest) :
    ((run ++ rest).splitOnP isSeparator).filter (!·.isEmpty) =
      run :: (rest.splitOnP isSeparator).filter (!·.isEmpty) := by
  have kept (pieces : List (List Char)) :
      (run :: pieces).filter (!·.isEmpty) = run :: pieces.filter (!·.isEmpty) :=
    List.filter_cons_of_pos (by simpa using nonempty)
  cases rest with
  | nil =>
    rw [List.append_nil, List.splitOnP_eq_singleton unseparated, kept]
    rfl
  | cons c rest =>
    have separator := ended c rfl
    rw [List.splitOnP_append_cons_of_forall_mem unseparated c separator, kept,
      List.splitOnP_cons_eq_if_modifyHead, if_pos separator]
    rfl

/-- The runs are the pieces that are not empty. -/
theorem SplitsInto.eq_filter (split : SplitsInto text runs) :
    runs = (text.splitOnP isSeparator).filter (!·.isEmpty) := by
  induction split with
  | @gap gap isGap =>
    rw [← List.append_nil gap, filter_splitOnP_gap_append isGap]
    rfl
  | run isGap nonempty unseparated ended _ ih =>
    rw [List.append_assoc, filter_splitOnP_gap_append isGap,
      filter_splitOnP_run_append nonempty unseparated ended, ← ih]

theorem splitsInto_iff :
    SplitsInto text runs ↔ runs = (text.splitOnP isSeparator).filter (!·.isEmpty) := by
  refine ⟨SplitsInto.eq_filter, ?_⟩
  rintro rfl
  obtain ⟨runs, split⟩ := exists_splitsInto text
  rwa [← split.eq_filter]

instance (text : List Char) (runs : List (List Char)) : Decidable (SplitsInto text runs) :=
  decidable_of_iff _ splitsInto_iff.symm

example : SplitsInto " on\tnow \u00a0\t".toList ["on\tnow".toList, ['\t']] := by decide +kernel

/-- Every text has its runs, and no others. -/
theorem existsUnique_splitsInto (text : List Char) : ∃! runs, SplitsInto text runs :=
  ⟨_, splitsInto_iff.mpr rfl, fun _ => SplitsInto.eq_filter⟩

/-! ## Runs and words -/

/-- The words are what is left of the runs when they are trimmed. -/
theorem SplitsInto.words_eq_trimmed (split : SplitsInto text runs) :
    words text = (runs.map trim).filter (!·.isEmpty) := by
  -- an empty piece is empty when it is trimmed
  have dropped (piece : List Char) :
      (!(trim piece).isEmpty && !piece.isEmpty) = !(trim piece).isEmpty := by
    cases piece <;> simp [trim, trimStart, trimEnd]
  rw [split.eq_filter, words, List.filter_map, List.filter_map, List.filter_filter]
  simp only [Function.comp_apply, dropped]
  rfl

theorem SplitsInto.words_eq (split : SplitsInto text ws) (areWords : ∀ word ∈ ws, IsWord word) :
    words text = ws := by
  rw [split.words_eq_trimmed, filter_map_trim areWords]

/-- Each word has a gap in front of it that is not empty, and a gap comes last. -/
inductive Spaced : List (List Char) → List Char → Prop where
  /-- The gap that comes last. -/
  | nil {gap : List Char} (isGap : IsGap gap) : Spaced [] gap
  /-- A gap, the first word and the others. -/
  | cons {gap word rest : List Char} {ws : List (List Char)} (isGap : IsGap gap)
      (nonempty : gap ≠ []) (others : Spaced ws rest) : Spaced (word :: ws) (gap ++ word ++ rest)

theorem Spaced.endsRun (spaced : Spaced ws rest) : EndsRun rest := by
  cases spaced with
  | nil isGap => exact isGap.endsRun
  | cons isGap nonempty _ =>
    rw [List.append_assoc, isGap.endsRun_append_iff]
    exact .inl nonempty

theorem Spaced.splitsInto (spaced : Spaced ws rest) (areWords : ∀ word ∈ ws, IsWord word) :
    SplitsInto rest ws := by
  induction spaced with
  | nil isGap => exact .gap isGap
  | cons isGap _ others ih =>
    obtain ⟨isWord, areWords⟩ := List.forall_mem_cons.mp areWords
    exact .run isGap isWord.ne_nil isWord.unseparated others.endsRun (ih areWords)

end Gamebook.Text

namespace Gamebook.Script.Directive

open Gamebook.Text

variable {text : String} {line : Nat}

/-! ## Directives -/

/-- The rest of a directive splits into the fields it was joined from. -/
theorem words_rest (index : Nat) : words ((ofText text line).rest index).toList =
    ((ofText text line).fields.drop index).map String.toList := by
  rw [rest, String.toList_intercalate]
  refine words_joinWords fun word inside => ?_
  obtain ⟨field, isLate, rfl⟩ := List.mem_map.mp inside
  exact isWord_of_mem_fields (List.mem_of_mem_drop isLate)

/-- A directive that begins with a keyword is made of words. -/
theorem ofText_spaced {keyword : Keyword} {fields : List String} {front back : List Char}
    (areWords : ∀ field ∈ fields, IsWord field.toList) (isGap : IsGap front)
    (spaced : Spaced (fields.map String.toList) back) :
    ofText (String.ofList (front ++ keyword.spelling.toList ++ back)) line =
      ⟨keyword.spelling, fields, line⟩ := by
  have areWords : ∀ word ∈ fields.map String.toList, IsWord word :=
    List.forall_mem_map.mpr areWords
  have isWord : IsWord keyword.spelling.toList := keyword.anyWord_spelling
  have split : SplitsInto (front ++ keyword.spelling.toList ++ back)
      (keyword.spelling.toList :: fields.map String.toList) :=
    .run isGap isWord.ne_nil isWord.unseparated spaced.endsRun (spaced.splitsInto areWords)
  have same := split.words_eq (List.forall_mem_cons.mpr ⟨isWord, areWords⟩)
  rw [ofText_of_words (by rw [String.toList_ofList, same, List.map_cons]), keyword.lower_spelling]

/-- The directive has the words of the text, and is read back from them. -/
structure Canonical (text : String) (directive : Directive) : Prop where
  /-- There is one way to split the text. -/
  existsUnique : ∃! runs, SplitsInto text.toList runs
  /-- The name is the first of the runs that are not empty when they are trimmed, in lower
  case, and it is empty if there are none. -/
  name : ∀ runs, SplitsInto text.toList runs → directive.name =
    String.ofList (lower (((runs.map trim).filter (!·.isEmpty)).headD []))
  /-- The fields are the others. -/
  fields : ∀ runs, SplitsInto text.toList runs → directive.fields =
    ((runs.map trim).filter (!·.isEmpty)).tail.map String.ofList
  /-- The fields are words. -/
  areWords : ∀ field ∈ directive.fields, IsWord field.toList
  /-- The fields from an index on are the words of the text that they make up. -/
  rest : ∀ index, words (directive.rest index).toList =
    (directive.fields.drop index).map String.toList
  /-- A keyword and the fields are read back, whatever gaps are before, between and behind
  them. -/
  readBack : ∀ keyword, directive.keyword? = some keyword → ∀ front back number, IsGap front →
    Spaced (directive.fields.map String.toList) back →
      ofText (String.ofList (front ++ keyword.spelling.toList ++ back)) number =
        ⟨directive.name, directive.fields, number⟩

theorem ofText_canonical (text : String) (line : Nat) : Canonical text (ofText text line) where
  existsUnique := existsUnique_splitsInto text.toList
  name runs split := by rw [← split.words_eq_trimmed, name_ofText]
  fields runs split := by rw [← split.words_eq_trimmed, fields_ofText]
  areWords _ isField := isWord_of_mem_fields isField
  rest index := words_rest index
  readBack keyword known front back number isGap spaced := by
    have spelled : keyword.spelling = (ofText text line).name :=
      Keyword.ofSpelling?_eq_some_iff.mp known
    rw [ofText_spaced (fun _ => isWord_of_mem_fields) isGap spaced, spelled]

/-- A chapter with tabs around its name, a blank run that is no word and a tab in its id. -/
def tabbedChapter : String := "\tChapter\t \u3000 c\t1 "

theorem ofText_tabbed_chapter :
    SplitsInto tabbedChapter.toList ["\tChapter\t".toList, "\u3000".toList, "c\t1".toList] ∧
      (ofText tabbedChapter 7).name = "chapter" ∧
      (ofText tabbedChapter 7).fields = ["c\t1"] ∧
      ofText "\u00a0chapter\u00a0 c\t1" 8 = ⟨"chapter", ["c\t1"], 8⟩ := by
  have split : SplitsInto tabbedChapter.toList
      ["\tChapter\t".toList, "\u3000".toList, "c\t1".toList] := by decide +kernel
  have canonical : Canonical tabbedChapter (ofText tabbedChapter 7) := ofText_canonical _ _
  have name : (ofText tabbedChapter 7).name = "chapter" :=
    (canonical.name _ split).trans (by decide +kernel)
  have fields : (ofText tabbedChapter 7).fields = ["c\t1"] :=
    (canonical.fields _ split).trans (by decide +kernel)
  have known : (ofText tabbedChapter 7).keyword? = some .openChapter := by
    rw [keyword?, name]
    decide
  have spaced : Spaced ["c\t1".toList] "\u00a0 c\t1".toList :=
    @Spaced.cons "\u00a0 ".toList "c\t1".toList [] [] (by decide +kernel) (by decide)
      (.nil isGap_nil)
  have back := canonical.readBack .openChapter known ['\u00a0'] "\u00a0 c\t1".toList 8
    (by decide +kernel) (by rwa [fields])
  rw [name, fields] at back
  exact ⟨split, name, fields, back⟩

end Gamebook.Script.Directive
