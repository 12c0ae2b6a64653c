import Gamebook.Script.Directive

/-!
# Words of a text

What the words of a text can be, and that they determine a text: to join words
by single spaces and to take the result apart gives the words back.  The same
holds of directives, whose first word is lowered besides.
-/

namespace Gamebook.Text

variable {text : List Char}

/-! ## Trimming -/

/-- A text keeps its start if it begins with no blank. -/
theorem trimStart_eq_self_iff :
    trimStart text = text ↔ ∀ c, text.head? = some c → isBlank c = false := by
  cases text with
  | nil => simp [trimStart]
  | cons c rest =>
    cases blank : isBlank c with
    | false => simp [trimStart, blank]
    | true =>
      have shorter : (trimStart rest).length ≤ rest.length :=
        (List.dropWhile_sublist isBlank).length_le
      constructor
      · intro same
        have lengths := congrArg List.length same
        simp only [trimStart, List.dropWhile_cons, blank, if_true, List.length_cons] at lengths
        simp only [trimStart] at shorter
        omega
      · intro unblank
        simpa [blank] using unblank c

theorem trimStart_trimStart : trimStart (trimStart text) = trimStart text := by
  refine trimStart_eq_self_iff.mpr ?_
  intro c first
  obtain ⟨rest, start⟩ := List.head?_eq_some_iff.mp first
  exact isBlank_head_trimStart start

/-- A text keeps its end if it ends with no blank. -/
theorem trimEnd_eq_self_iff :
    trimEnd text = text ↔ ∀ c, text.getLast? = some c → isBlank c = false := by
  rw [← List.head?_reverse, ← trimStart_eq_self_iff, trimEnd, ← List.reverse_inj,
    List.reverse_reverse]

theorem trimEnd_isPrefix : trimEnd text <+: text := by
  rw [← List.reverse_suffix, trimEnd, List.reverse_reverse]
  exact List.dropWhile_suffix isBlank

theorem trimEnd_trimEnd : trimEnd (trimEnd text) = trimEnd text := by
  simp only [trimEnd, List.reverse_reverse, trimStart_trimStart]

/-- Trimming the end leaves the start as it is. -/
theorem trimStart_trimEnd (trimmed : trimStart text = text) :
    trimStart (trimEnd text) = trimEnd text := by
  rw [trimStart_eq_self_iff] at trimmed ⊢
  intro c first
  obtain ⟨dropped, whole⟩ : trimEnd text <+: text := trimEnd_isPrefix
  refine trimmed c ?_
  rw [← whole, List.head?_append, first]
  rfl

theorem trim_eq_self_iff : trim text = text ↔ trimStart text = text ∧ trimEnd text = text := by
  constructor
  · intro same
    have shorter : (trimStart text).length ≤ text.length :=
      (List.dropWhile_sublist isBlank).length_le
    have started : trimStart text = text := by
      refine (List.dropWhile_suffix isBlank).eq_of_length_le ?_
      calc
        text.length = (trim text).length := by rw [same]
        _ ≤ (trimStart text).length := trimEnd_isPrefix.length_le
    exact ⟨started, by rw [← same, trim, started, trimEnd_trimEnd]⟩
  · rintro ⟨started, ended⟩
    rw [trim, started, ended]

/-- What has been trimmed stays as it is. -/
theorem trim_trim : trim (trim text) = trim text :=
  trim_eq_self_iff.mpr ⟨trimStart_trimEnd trimStart_trimStart, trimEnd_trimEnd⟩

theorem mem_of_mem_trim {c : Char} (inside : c ∈ trim text) : c ∈ text :=
  (List.dropWhile_sublist isBlank).subset (trimEnd_isPrefix.subset inside)

/-- Only blanks are taken from the start. -/
theorem exists_append_trimStart (text : List Char) :
    ∃ before, (∀ c ∈ before, isBlank c = true) ∧ before ++ trimStart text = text :=
  ⟨text.takeWhile isBlank, List.all_eq_true.mp List.all_takeWhile, List.takeWhile_append_dropWhile⟩

/-- Only blanks are taken from the end. -/
theorem exists_trimEnd_append (text : List Char) :
    ∃ after, (∀ c ∈ after, isBlank c = true) ∧ trimEnd text ++ after = text := by
  obtain ⟨before, blank, whole⟩ := exists_append_trimStart text.reverse
  refine ⟨before.reverse, by simpa using blank, ?_⟩
  rw [trimEnd, ← List.reverse_append, whole, List.reverse_reverse]

theorem trimStart_blanks_append {before : List Char} (blank : ∀ c ∈ before, isBlank c = true) :
    trimStart (before ++ text) = trimStart text :=
  List.dropWhile_append_of_pos blank

theorem trimEnd_append_blanks {after : List Char} (blank : ∀ c ∈ after, isBlank c = true) :
    trimEnd (text ++ after) = trimEnd text := by
  have behind : ∀ c ∈ after.reverse, isBlank c = true := by simpa using blank
  rw [trimEnd, List.reverse_append, trimStart_blanks_append behind, trimEnd]

/-- Blanks in front are trimmed away, whatever follows. -/
theorem trim_blanks_append {before : List Char} (blank : ∀ c ∈ before, isBlank c = true) :
    trim (before ++ text) = trim text := by
  rw [trim, trimStart_blanks_append blank, trim]

/-- Blanks behind are trimmed away, whatever stands before. -/
theorem trim_append_blanks {after : List Char} (blank : ∀ c ∈ after, isBlank c = true) :
    trim (text ++ after) = trim text := by
  cases start : trimStart text with
  | nil =>
    have nothing := trimStart_eq_nil_iff.mp start
    rw [trim_eq_nil_iff.mpr (List.forall_mem_append.mpr ⟨nothing, blank⟩),
      trim_eq_nil_iff.mpr nothing]
  | cons c rest =>
    have started : trimStart (text ++ after) = trimStart text ++ after := by
      rw [trimStart, List.dropWhile_append, ← trimStart, start]
      rfl
    rw [trim, started, trimEnd_append_blanks blank, trim]

/-! ## Words -/

/-- The text is a word. -/
structure IsWord (text : List Char) : Prop where
  /-- It is not empty. -/
  ne_nil : text ≠ []
  /-- It has no blanks at its ends. -/
  trimmed : trim text = text
  /-- It has neither space nor no-break space inside. -/
  unseparated : ∀ c ∈ text, isSeparator c = false

instance (text : List Char) : Decidable (IsWord text) :=
  decidable_of_iff (text ≠ [] ∧ trim text = text ∧ text.all (!isSeparator ·) = true) <| by
    constructor
    · rintro ⟨nonempty, trimmed, clear⟩
      exact ⟨nonempty, trimmed, by simpa using clear⟩
    · rintro ⟨nonempty, trimmed, clear⟩
      exact ⟨nonempty, trimmed, by simpa using clear⟩

example : IsWord "on\tnow".toList ∧ ¬ IsWord " now".toList := by decide

/-- A piece has characters of the text that do not separate. -/
theorem of_mem_splitOnP {piece : List Char} {separates : Char → Bool}
    (isPiece : piece ∈ text.splitOnP separates) :
    ∀ c ∈ piece, c ∈ text ∧ separates c = false := by
  induction text generalizing piece with
  | nil => simp_all
  | cons c rest ih =>
    rw [List.splitOnP_cons_eq_if_modifyHead] at isPiece
    obtain ⟨first, others, split⟩ := List.exists_cons_of_ne_nil
      (List.splitOnP_ne_nil separates rest)
    rw [split] at ih isPiece
    have later {other : List Char} (isMember : other ∈ first :: others) :
        ∀ d ∈ other, d ∈ c :: rest ∧ separates d = false := fun d inside =>
      ⟨.tail c (ih isMember d inside).1, (ih isMember d inside).2⟩
    cases separator : separates c with
    | true =>
      rw [if_pos separator, List.mem_cons] at isPiece
      rcases isPiece with rfl | isMember
      · simp
      · exact later isMember
    | false =>
      rw [separator, if_neg Bool.false_ne_true, List.modifyHead_cons, List.mem_cons] at isPiece
      rcases isPiece with rfl | isMember
      · exact List.forall_mem_cons.mpr ⟨⟨.head rest, separator⟩, later (.head others)⟩
      · exact later (.tail first isMember)

/-- The words of a text are words. -/
theorem isWord_of_mem_words {word : List Char} (isMember : word ∈ words text) : IsWord word := by
  rw [words, List.mem_filter, List.mem_map] at isMember
  obtain ⟨⟨piece, isPiece, rfl⟩, nonempty⟩ := isMember
  refine ⟨by simpa using nonempty, trim_trim, ?_⟩
  intro c inside
  exact (of_mem_splitOnP isPiece c (mem_of_mem_trim inside)).2

theorem mem_of_mem_words {word : List Char} {c : Char} (isMember : word ∈ words text)
    (inside : c ∈ word) : c ∈ text := by
  rw [words, List.mem_filter, List.mem_map] at isMember
  obtain ⟨⟨piece, isPiece, rfl⟩, -⟩ := isMember
  exact (of_mem_splitOnP isPiece c (mem_of_mem_trim inside)).1

/-! ## Words in a row -/

theorem joinWords_cons_cons (first second : List Char) (others : List (List Char)) :
    joinWords (first :: second :: others) = first ++ ' ' :: joinWords (second :: others) := by
  rw [joinWords, List.intercalate_cons_cons, List.append_assoc]
  rfl

theorem joinWords_singleton (word : List Char) : joinWords [word] = word :=
  List.intercalate_singleton

theorem mem_joinWords {ws : List (List Char)} {c : Char} (inside : c ∈ joinWords ws) :
    c = ' ' ∨ ∃ word ∈ ws, c ∈ word := by
  induction ws with
  | nil => cases inside
  | cons first others ih =>
    cases others with
    | nil =>
      rw [joinWords_singleton] at inside
      exact .inr ⟨first, .head _, inside⟩
    | cons second others =>
      rw [joinWords_cons_cons, List.mem_append, List.mem_cons] at inside
      rcases inside with inFirst | isSpace | later
      · exact .inr ⟨first, .head _, inFirst⟩
      · exact .inl isSpace
      · rcases ih later with isSpace | ⟨word, isMember, inWord⟩
        · exact .inl isSpace
        · exact .inr ⟨word, .tail _ isMember, inWord⟩

/-- Blanks inside do not matter to trimming. -/
theorem trim_append {first middle last : List Char} (firstTrimmed : trim first = first)
    (lastTrimmed : trim last = last) (firstNonempty : first ≠ []) (lastNonempty : last ≠ []) :
    trim (first ++ middle ++ last) = first ++ middle ++ last := by
  obtain ⟨started, -⟩ := trim_eq_self_iff.mp firstTrimmed
  obtain ⟨-, ended⟩ := trim_eq_self_iff.mp lastTrimmed
  refine trim_eq_self_iff.mpr
    ⟨trimStart_eq_self_iff.mpr ?_, trimEnd_eq_self_iff.mpr ?_⟩
  · intro c atHead
    apply trimStart_eq_self_iff.mp started c
    rw [List.append_assoc, List.head?_append] at atHead
    cases first with
    | nil => exact absurd rfl firstNonempty
    | cons d rest => exact atHead
  · intro c atEnd
    apply trimEnd_eq_self_iff.mp ended c
    rw [List.getLast?_append, List.getLast?_eq_some_getLast lastNonempty, Option.some_or,
      ← List.getLast?_eq_some_getLast lastNonempty] at atEnd
    exact atEnd

/-- Trimmed texts that are joined are a trimmed text. -/
theorem trim_intercalate {separator : List Char} {pieces : List (List Char)}
    (nonempty : ∀ piece ∈ pieces, piece ≠ []) (trimmed : ∀ piece ∈ pieces, trim piece = piece) :
    trim (separator.intercalate pieces) = separator.intercalate pieces ∧
      (pieces ≠ [] → separator.intercalate pieces ≠ []) := by
  induction pieces with
  | nil => exact ⟨rfl, absurd rfl⟩
  | cons first others ih =>
    obtain ⟨firstNonempty, othersNonempty⟩ := List.forall_mem_cons.mp nonempty
    obtain ⟨firstTrimmed, othersTrimmed⟩ := List.forall_mem_cons.mp trimmed
    cases others with
    | nil =>
      rw [List.intercalate_singleton]
      exact ⟨firstTrimmed, fun _ => firstNonempty⟩
    | cons second others =>
      obtain ⟨restTrimmed, restNonempty⟩ := ih othersNonempty othersTrimmed
      rw [List.intercalate_cons_cons]
      exact ⟨trim_append firstTrimmed restTrimmed firstNonempty
        (restNonempty (List.cons_ne_nil _ _)), by simp [firstNonempty]⟩

/-- Words joined by single spaces are split at these spaces only. -/
theorem splitOnP_joinWords {ws : List (List Char)} (nonempty : ws ≠ [])
    (areWords : ∀ word ∈ ws, IsWord word) : (joinWords ws).splitOnP isSeparator = ws := by
  induction ws with
  | nil => exact absurd rfl nonempty
  | cons first others ih =>
    have unseparated := (areWords first (.head _)).unseparated
    cases others with
    | nil =>
      rw [joinWords_singleton]
      exact List.splitOnP_eq_singleton unseparated
    | cons second others =>
      have later := ih (List.cons_ne_nil second others) fun word inside =>
        areWords word (.tail _ inside)
      rw [joinWords_cons_cons,
        List.splitOnP_append_cons_of_forall_mem unseparated ' ' (by decide), later]

/-- Words are left as they are. -/
theorem filter_map_trim {ws : List (List Char)} (areWords : ∀ word ∈ ws, IsWord word) :
    (ws.map trim).filter (!·.isEmpty) = ws := by
  rw [List.map_congr_left fun word inside => (areWords word inside).trimmed, List.map_id',
    List.filter_eq_self]
  intro word inside
  simpa using (areWords word inside).ne_nil

/-- To take words apart that have been joined gives them back. -/
theorem words_joinWords {ws : List (List Char)} (areWords : ∀ word ∈ ws, IsWord word) :
    words (joinWords ws) = ws := by
  cases ws with
  | nil => rfl
  | cons first others =>
    rw [words, splitOnP_joinWords (List.cons_ne_nil first others) areWords,
      filter_map_trim areWords]

end Gamebook.Text

namespace Gamebook.Script

open Gamebook.Text (IsWord isWord_of_mem_words joinWords lower words words_joinWords)

/-! ## Directives -/

theorem Directive.name_ofText {text : String} {line : Nat} :
    (ofText text line).name = String.ofList (lower ((words text.toList).headD [])) := by
  rw [ofText]
  split
  next none =>
    rw [none]
    rfl
  next first others split => rw [split, List.headD_cons]

theorem Directive.fields_ofText {text : String} {line : Nat} :
    (ofText text line).fields = (words text.toList).tail.map String.ofList := by
  rw [ofText]
  split
  next none =>
    rw [none]
    rfl
  next first others split => rw [split, List.tail_cons]

theorem Directive.mem_words {text field : String} {line : Nat}
    (isField : field ∈ (ofText text line).fields) : field.toList ∈ words text.toList := by
  rw [fields_ofText] at isField
  obtain ⟨word, inside, rfl⟩ := List.mem_map.mp isField
  rw [String.toList_ofList]
  exact List.mem_of_mem_tail inside

/-- The fields of a directive are words. -/
theorem Directive.isWord_of_mem_fields {text field : String} {line : Nat}
    (isField : field ∈ (ofText text line).fields) : IsWord field.toList :=
  isWord_of_mem_words (mem_words isField)

theorem intercalate_ne_empty {word : String} (isWord : IsWord word.toList) (more : List String) :
    " ".intercalate (word :: more) ≠ "" := by
  intro empty
  refine isWord.ne_nil ?_
  have chars : (" ".intercalate (word :: more)).toList = [] := by rw [empty, String.toList_empty]
  cases more with
  | nil => simpa using chars
  | cons second others =>
    rw [String.intercalate_cons_cons, String.toList_append, String.toList_append] at chars
    simp_all

/-- The rest of a directive is empty only if it has no fields. -/
theorem Directive.rest_zero_ne_empty_iff {text : String} {line : Nat} :
    (ofText text line).rest 0 ≠ "" ↔ ∃ word more, (ofText text line).fields = word :: more := by
  cases given : (ofText text line).fields with
  | nil => simp [rest, given]
  | cons word more =>
    have isWord : IsWord word.toList := isWord_of_mem_fields (given.symm ▸ List.mem_cons_self)
    simp only [rest, given, List.drop_zero, ne_eq, intercalate_ne_empty isWord more,
      not_false_eq_true, true_iff]
    exact ⟨word, more, rfl⟩

theorem Directive.ofText_of_words {text name : String} {fields : List String} {line : Nat}
    (split : words text.toList = (name :: fields).map String.toList) :
    ofText text line = ⟨String.ofList (lower name.toList), fields, line⟩ := by
  have same : (fields.map String.toList).map String.ofList = fields := by simp
  rw [ofText, split, List.map_cons]
  simp only [same]

/-- A directive is read back from its words. -/
theorem Directive.ofText_intercalate {name : String} {fields : List String} (line : Nat)
    (areWords : ∀ word ∈ name :: fields, IsWord word.toList) :
    ofText (" ".intercalate (name :: fields)) line =
      ⟨String.ofList (lower name.toList), fields, line⟩ := by
  refine ofText_of_words ?_
  rw [String.toList_intercalate]
  exact words_joinWords (by simpa using areWords)

end Gamebook.Script
