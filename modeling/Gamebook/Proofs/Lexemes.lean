import Gamebook.Json
import Mathlib.Data.List.Basic

/-!
# The lexemes of a JSON text

A JSON text is a sequence of *lexemes*, with blanks between them that mean nothing.
A lexeme is a mark of punctuation, a word or a string.  `Spells lexemes chars` is
the lexical grammar.  A word ends where the next character is no letter or digit.  A
string has its characters as they are or escaped.

The grammar is that of JSON with two limits.  A number is a natural one in decimals,
and an escape of four digits stands for one character, so that there are no pairs of
them.

`lex?` takes a text apart from left to right.  It is exact: it finds the lexemes that
the text spells if there are any (`lex?_eq_some_iff`).  So no text spells two sequences
of lexemes.
-/

namespace Gamebook.Json

/-! ## Marks -/

/-- A mark of punctuation. -/
inductive Mark where
  /-- The beginning of a list. -/
  | openList
  /-- The end of a list. -/
  | closeList
  /-- The beginning of an object. -/
  | openObject
  /-- The end of an object. -/
  | closeObject
  /-- What stands between two items or fields. -/
  | comma
  /-- What stands between a key and its value. -/
  | colon
  deriving DecidableEq, Repr

namespace Mark

/-- The character of the mark. -/
def char : Mark → Char
  | openList => '['
  | closeList => ']'
  | openObject => '\x7b'
  | closeObject => '\x7d'
  | comma => ','
  | colon => ':'

/-- All marks. -/
def all : List Mark := [openList, closeList, openObject, closeObject, comma, colon]

/-- The mark that this character is. -/
def ofChar? (c : Char) : Option Mark := all.find? (·.char = c)

theorem ofChar?_eq_some_iff {c : Char} {mark : Mark} : ofChar? c = some mark ↔ mark.char = c := by
  constructor
  · intro found
    simpa using List.find?_some found
  · rintro rfl
    cases mark <;> decide

end Mark

/-! ## Words -/

/-- A value that is a word. -/
inductive Word where
  /-- The absent value. -/
  | null
  /-- A truth value. -/
  | bool (value : Bool)
  /-- A count. -/
  | num (value : Nat)
  deriving DecidableEq, Repr

/-- The character can be part of a word. -/
def isWordChar (c : Char) : Bool := c.isAlphanum

namespace Word

/-- The characters of the word. -/
def spelling : Word → List Char
  | null => "null".toList
  | bool true => "true".toList
  | bool false => "false".toList
  | num value => value.repr.toList

/-- The word that is spelled so. -/
def ofSpelling? (chars : List Char) : Option Word :=
  [null, bool true, bool false, num (Nat.ofDigitChars 10 chars 0)].find? (·.spelling = chars)

theorem spelling_num (value : Nat) : (num value).spelling = Nat.toDigits 10 value := by
  rw [spelling, Nat.repr_eq_ofList_toDigits, String.toList_ofList]

theorem isDigit_of_mem_num {value : Nat} {c : Char} (mem : c ∈ (num value).spelling) :
    c.isDigit = true := by
  rw [spelling_num] at mem
  exact Nat.isDigit_of_mem_toDigits (by decide) (by decide) mem

/-- A letter tells the other words from numbers. -/
theorem num_spelling_ne {value : Nat} {chars : List Char} {letter : Char} (mem : letter ∈ chars)
    (plain : letter.isDigit = false) : (num value).spelling ≠ chars := by
  rintro rfl
  simp [isDigit_of_mem_num mem] at plain

theorem spelling_ne_nil (word : Word) : word.spelling ≠ [] := by
  cases word with
  | null => decide
  | bool value => cases value <;> decide
  | num value =>
    rw [spelling_num]
    exact Nat.toDigits_ne_nil

theorem isWordChar_of_mem {word : Word} {c : Char} (mem : c ∈ word.spelling) :
    isWordChar c = true := by
  cases word with
  | null =>
    have letters : null.spelling.all isWordChar = true := by decide
    exact List.all_eq_true.mp letters c mem
  | bool value =>
    have letters : (bool value).spelling.all isWordChar = true := by cases value <;> decide
    exact List.all_eq_true.mp letters c mem
  | num value => simp [isWordChar, Char.isAlphanum, isDigit_of_mem_num mem]

/-- Reading the spelling of a word gives the word. -/
theorem ofSpelling?_spelling (word : Word) : ofSpelling? word.spelling = some word := by
  cases word with
  | null => decide
  | bool value => cases value <;> decide
  | num value =>
    have digits : Nat.ofDigitChars 10 (num value).spelling 0 = value := by
      rw [spelling_num, Nat.ofDigitChars_ten_toDigits]
    have notNull : null.spelling ≠ (num value).spelling :=
      (@num_spelling_ne _ _ 'n' (by decide) (by decide)).symm
    have notTrue : (bool true).spelling ≠ (num value).spelling :=
      (@num_spelling_ne _ _ 't' (by decide) (by decide)).symm
    have notFalse : (bool false).spelling ≠ (num value).spelling :=
      (@num_spelling_ne _ _ 'f' (by decide) (by decide)).symm
    simp [ofSpelling?, digits, notNull, notTrue, notFalse]

theorem ofSpelling?_eq_some_iff {chars : List Char} {word : Word} :
    ofSpelling? chars = some word ↔ word.spelling = chars := by
  constructor
  · intro found
    simpa using List.find?_some found
  · rintro rfl
    exact ofSpelling?_spelling word

end Word

/-! ## Strings -/

/-- The characters with a letter for their escape. -/
def letters : List (Char × Char) :=
  [('"', '"'), ('\\', '\\'), ('/', '/'), ('b', '\x08'), ('f', '\x0c'), ('n', '\n'), ('r', '\r'),
    ('t', '\t')]

/-- The value of a hexadecimal digit, of either case. -/
def hexDigit? (c : Char) : Option Nat := "0123456789abcdef".toList.idxOf? c.toLower

/-- The character that is written so behind a backslash. -/
def escaped? : List Char → Option Char
  | [letter] => letters.lookup letter
  | ['u', first, second, third, fourth] => do
    let code ← [first, second, third, fourth].foldlM
      (fun code digit => (hexDigit? digit).map (16 * code + ·)) 0
    if code.isValidChar then some (.ofNat code) else none
  | _ => none

/-- The character stands for itself in a string. -/
def isPlain (c : Char) : Bool := c ≠ '"' && c ≠ '\\' && 32 ≤ c.toNat

/-- The characters of a text, and how they are written in a string. -/
inductive Quotes : List Char → List Char → Prop where
  /-- No characters. -/
  | nil : Quotes [] []
  /-- A character as it is. -/
  | plain {c : Char} {text written : List Char} (isPlain : isPlain c = true)
      (rest : Quotes text written) : Quotes (c :: text) (c :: written)
  /-- A character behind a backslash. -/
  | escape {c : Char} {spelling text written : List Char} (escaped : escaped? spelling = some c)
      (rest : Quotes text written) : Quotes (c :: text) ('\\' :: spelling ++ written)

/-! ## The lexical grammar -/

/-- A piece of a JSON text. -/
inductive Lexeme where
  /-- A mark of punctuation. -/
  | mark (mark : Mark)
  /-- A word. -/
  | word (word : Word)
  /-- A string. -/
  | text (value : String)
  deriving DecidableEq, Repr

/-- White space between lexemes. -/
def isBlank (c : Char) : Bool := c = ' ' || c = '\t' || c = '\n' || c = '\r'

/-- No word goes on here. -/
def EndsWord (chars : List Char) : Prop := chars.head?.any isWordChar = false

/-- The characters are those of the lexemes, with blanks between them. -/
inductive Spells : List Lexeme → List Char → Prop where
  /-- No lexemes. -/
  | nil : Spells [] []
  /-- A blank in front. -/
  | blank {c : Char} {lexemes : List Lexeme} {rest : List Char} (isBlank : isBlank c = true)
      (spells : Spells lexemes rest) : Spells lexemes (c :: rest)
  /-- A mark in front. -/
  | mark {mark : Mark} {lexemes : List Lexeme} {rest : List Char} (spells : Spells lexemes rest) :
      Spells (.mark mark :: lexemes) (mark.char :: rest)
  /-- A word in front. -/
  | word {word : Word} {lexemes : List Lexeme} {rest : List Char} (ends : EndsWord rest)
      (spells : Spells lexemes rest) : Spells (.word word :: lexemes) (word.spelling ++ rest)
  /-- A string in front. -/
  | text {value : String} {written : List Char} {lexemes : List Lexeme} {rest : List Char}
      (quotes : Quotes value.toList written) (spells : Spells lexemes rest) :
      Spells (.text value :: lexemes) ('"' :: written ++ '"' :: rest)

/-! ## Taking a text apart -/

/-- What has been read of the lexeme at hand. -/
inductive Draft where
  /-- The beginning of a word, or nothing. -/
  | outside (taken : List Char)
  /-- The beginning of a string, with its escapes read. -/
  | text (done : List Char)
  /-- The beginning of a string and that of an escape. -/
  | escape (done spelling : List Char)
  deriving DecidableEq, Repr

/-- The lexemes of the characters, where a lexeme may have begun. -/
def lexFrom : Draft → List Char → Option (List Lexeme)
  | .outside _, [] => some []
  | .text _, [] | .escape _ _, [] => none
  | .outside taken, c :: rest =>
    if isWordChar c then
      if rest.head?.any isWordChar then lexFrom (.outside (taken ++ [c])) rest
      else do
        let word ← Word.ofSpelling? (taken ++ [c])
        let later ← lexFrom (.outside []) rest
        return .word word :: later
    else if isBlank c then lexFrom (.outside []) rest
    else if c = '"' then lexFrom (.text []) rest
    else do
      let mark ← Mark.ofChar? c
      let later ← lexFrom (.outside []) rest
      return .mark mark :: later
  | .text done, c :: rest =>
    if c = '"' then (lexFrom (.outside []) rest).map (.text (String.ofList done) :: ·)
    else if c = '\\' then lexFrom (.escape done []) rest
    else if isPlain c then lexFrom (.text (done ++ [c])) rest
    else none
  | .escape done spelling, c :: rest =>
    match escaped? (spelling ++ [c]) with
    | some escaped => lexFrom (.text (done ++ [escaped])) rest
    | none => lexFrom (.escape done (spelling ++ [c])) rest

/-- The lexemes of a text. -/
def lex? (text : String) : Option (List Lexeme) := lexFrom (.outside []) text.toList

/-! ## Every text is taken apart rightly -/

section Escapes

variable {spelling more : List Char} {c d : Char}

/-- The first character of an escape tells how long it is. -/
theorem length_of_escaped? (escaped : escaped? spelling = some c) :
    spelling.length = if spelling.head? = some 'u' then 5 else 1 := by
  unfold escaped? at escaped
  split at escaped
  · rename_i letter
    have other : letter ≠ 'u' := by
      rintro rfl
      have none : letters.lookup 'u' = none := by decide
      rw [none] at escaped
      cases escaped
    simp [other]
  · rfl
  · cases escaped

/-- No escape is the beginning of another one. -/
theorem escaped?_append (escaped : escaped? spelling = some c)
    (longer : escaped? (spelling ++ more) = some d) : more = [] := by
  have short := length_of_escaped? escaped
  have long := length_of_escaped? longer
  cases spelling with
  | nil => cases escaped
  | cons first others =>
    rw [List.length_append, short] at long
    simpa using long

end Escapes

section Spells

variable {lexemes : List Lexeme} {c : Char} {done rest chars : List Char}

theorem EndsWord.takeWhile (ends : EndsWord rest) : rest.takeWhile isWordChar = [] := by
  cases rest with
  | nil => rfl
  | cons c rest =>
    have other : isWordChar c = false := ends
    simp [other]

/-- Where a word ends is determined. -/
theorem EndsWord.append_inj {first second rest' : List Char}
    (letters : ∀ c ∈ first, isWordChar c = true) (letters' : ∀ c ∈ second, isWordChar c = true)
    (ends : EndsWord rest) (ends' : EndsWord rest') (same : first ++ rest = second ++ rest') :
    first = second ∧ rest = rest' := by
  have taken := congrArg (List.takeWhile isWordChar) same
  rw [List.takeWhile_append_of_pos letters, List.takeWhile_append_of_pos letters', ends.takeWhile,
    ends'.takeWhile, List.append_nil, List.append_nil] at taken
  subst taken
  exact ⟨rfl, List.append_cancel_left same⟩

/-- A string that has begun with these characters, and what comes after it. -/
inductive Continues (lexemes : List Lexeme) : List Char → List Char → Prop where
  /-- The string ends. -/
  | close {done rest : List Char} {later : List Lexeme} (spells : Spells later rest)
      (found : lexemes = .text (String.ofList done) :: later) :
      Continues lexemes done ('"' :: rest)
  /-- A character as it is. -/
  | plain {c : Char} {done rest : List Char} (isPlain : isPlain c = true)
      (continues : Continues lexemes (done ++ [c]) rest) : Continues lexemes done (c :: rest)
  /-- A character behind a backslash. -/
  | escape {c : Char} {spelling done rest : List Char} (escaped : escaped? spelling = some c)
      (continues : Continues lexemes (done ++ [c]) rest) :
      Continues lexemes done ('\\' :: (spelling ++ rest))

theorem Quotes.continues {text written : List Char} {later : List Lexeme}
    (quotes : Quotes text written) (spells : Spells later rest) (done : List Char) :
    Continues (.text (String.ofList (done ++ text)) :: later) done (written ++ '"' :: rest) := by
  induction quotes generalizing done with
  | nil => exact .close spells (by rw [List.append_nil])
  | plain isPlain _ ih =>
    refine .plain isPlain ?_
    rw [List.append_cons]
    exact ih _
  | escape escaped _ ih =>
    simp only [List.cons_append, List.append_assoc]
    refine .escape escaped ?_
    rw [List.append_cons]
    exact ih _

theorem Continues.quotes (continues : Continues lexemes done chars) :
    ∃ text written rest later, Quotes text written ∧ Spells later rest ∧
      chars = written ++ '"' :: rest ∧ lexemes = .text (String.ofList (done ++ text)) :: later := by
  induction continues with
  | close spells found => exact ⟨[], [], _, _, .nil, spells, rfl, by rw [List.append_nil, found]⟩
  | plain isPlain _ ih =>
    obtain ⟨text, written, rest, later, quotes, spells, rfl, found⟩ := ih
    exact ⟨_ :: text, _ :: written, rest, later, .plain isPlain quotes, spells, rfl,
      by rw [List.append_cons, found]⟩
  | escape escaped _ ih =>
    obtain ⟨text, written, rest, later, quotes, spells, rfl, found⟩ := ih
    exact ⟨_ :: text, _, rest, later, .escape escaped quotes, spells, by simp,
      by rw [List.append_cons, found]⟩

/-- What stands in front of a text that spells lexemes. -/
theorem Spells.of_cons (spells : Spells lexemes (c :: rest)) :
    (isBlank c = true ∧ Spells lexemes rest) ∨
    (∃ mark later, mark.char = c ∧ lexemes = .mark mark :: later ∧ Spells later rest) ∨
    (isWordChar c = true ∧ ∃ word later more, word.spelling ++ more = c :: rest ∧
      lexemes = .word word :: later ∧ EndsWord more ∧ Spells later more) ∨
    (c = '"' ∧ Continues lexemes [] rest) := by
  generalize made : c :: rest = chars at spells
  cases spells with
  | nil => cases made
  | blank isBlank spells =>
    cases made
    exact .inl ⟨isBlank, spells⟩
  | mark spells =>
    cases made
    exact .inr (.inl ⟨_, _, rfl, rfl, spells⟩)
  | @word word _ _ ends spells =>
    obtain ⟨first, others, spelled⟩ := List.exists_cons_of_ne_nil word.spelling_ne_nil
    have letter : isWordChar first = true := Word.isWordChar_of_mem (spelled ▸ List.mem_cons_self)
    have head : first = c := by
      rw [spelled] at made
      exact (List.cons.inj made).1.symm
    exact .inr (.inr (.inl ⟨head ▸ letter, _, _, _, rfl, rfl, ends, spells⟩))
  | @text value _ _ _ quotes spells =>
    cases made
    have continues := quotes.continues spells []
    rw [List.nil_append, String.ofList_toList] at continues
    exact .inr (.inr (.inr ⟨rfl, continues⟩))

theorem spells_nil_iff : Spells lexemes [] ↔ lexemes = [] := by
  constructor
  · intro spells
    generalize made : [] = chars at spells
    cases spells with
    | nil => rfl
    | blank | mark | text => cases made
    | word => simp [Word.spelling_ne_nil] at made
  · rintro rfl
    exact .nil

/-- No blank and no mark is the beginning of a word or a string. -/
theorem isBlank_other (blank : isBlank c = true) : isWordChar c = false ∧ c ≠ '"' := by
  simp only [isBlank, Bool.or_eq_true, decide_eq_true_eq] at blank
  obtain ((rfl | rfl) | rfl) | rfl := blank <;> decide

theorem Mark.char_other (mark : Mark) :
    isWordChar mark.char = false ∧ isBlank mark.char = false ∧ mark.char ≠ '"' := by
  cases mark <;> decide

theorem spells_blank_iff (blank : isBlank c = true) :
    Spells lexemes (c :: rest) ↔ Spells lexemes rest := by
  refine ⟨fun spells => ?_, .blank blank⟩
  have other := isBlank_other blank
  rcases spells.of_cons with ⟨-, spells⟩ | ⟨mark, _, rfl, -⟩ | ⟨letter, -⟩ | ⟨rfl, -⟩
  · exact spells
  · simp [mark.char_other] at blank
  · simp [letter] at other
  · simp at other

/-- A word is spelled up to the first character that cannot be in one. -/
theorem spells_word_iff {taken : List Char} (letters : ∀ c ∈ taken, isWordChar c = true)
    (nonempty : taken ≠ []) (ends : EndsWord rest) :
    Spells lexemes (taken ++ rest) ↔ ∃ word later, word.spelling = taken ∧ Spells later rest ∧
      lexemes = .word word :: later := by
  constructor
  · obtain ⟨first, others, rfl⟩ := List.exists_cons_of_ne_nil nonempty
    have letter : isWordChar first = true := letters first List.mem_cons_self
    intro spells
    rcases spells.of_cons with ⟨blank, -⟩ | ⟨mark, _, rfl, -⟩ |
      ⟨-, word, later, more, made, found, ends', onward⟩ | ⟨rfl, -⟩
    · simp [isBlank_other blank] at letter
    · simp [mark.char_other] at letter
    · obtain ⟨spelled, rfl⟩ :=
        EndsWord.append_inj (fun _ => Word.isWordChar_of_mem) letters ends' ends made
      exact ⟨word, later, spelled, onward, found⟩
    · cases letter
  · rintro ⟨word, later, rfl, spells, rfl⟩
    exact .word ends spells

theorem spells_quote_iff : Spells lexemes ('"' :: rest) ↔ Continues lexemes [] rest := by
  constructor
  · intro spells
    rcases spells.of_cons with ⟨blank, -⟩ | ⟨mark, _, made, -⟩ | ⟨letter, -⟩ | ⟨-, continues⟩
    · cases blank
    · exact absurd made mark.char_other.2.2
    · cases letter
    · exact continues
  · intro continues
    obtain ⟨text, written, rest, later, quotes, spells, rfl, rfl⟩ := continues.quotes
    exact .text (by rwa [List.nil_append, String.toList_ofList]) spells

/-- What is no word, no blank and no string begins with a mark. -/
theorem spells_mark_iff (noWord : isWordChar c = false) (noBlank : isBlank c = false)
    (noQuote : c ≠ '"') : Spells lexemes (c :: rest) ↔ ∃ mark later, mark.char = c ∧
      Spells later rest ∧ lexemes = .mark mark :: later := by
  constructor
  · intro spells
    rcases spells.of_cons with ⟨blank, -⟩ | ⟨mark, later, made, found, spells⟩ | ⟨letter, -⟩ |
      ⟨quote, -⟩
    · simp [noBlank] at blank
    · exact ⟨mark, later, made, spells, found⟩
    · simp [noWord] at letter
    · exact absurd quote noQuote
  · rintro ⟨mark, later, rfl, spells, rfl⟩
    exact .mark spells

end Spells

/-- What a draft and the characters after it stand for. -/
def Draft.Reads (lexemes : List Lexeme) : Draft → List Char → Prop
  | .outside taken, chars => Spells lexemes (taken ++ chars)
  | .text done, chars => Continues lexemes done chars
  | .escape done spelling, chars => ∃ more c rest, escaped? (spelling ++ more) = some c ∧
      chars = more ++ rest ∧ Continues lexemes (done ++ [c]) rest

/-- The draft is one that can have come about. -/
def Draft.Ready : Draft → List Char → Prop
  | .outside taken, chars => (∀ c ∈ taken, isWordChar c = true) ∧
      (taken ≠ [] → chars.head?.any isWordChar = true)
  | .text _, _ => True
  | .escape _ spelling, _ => escaped? spelling = none

section Steps

variable {c : Char} {rest taken done spelling : List Char} {lexemes : List Lexeme}
  (agrees : ∀ {draft : Draft} {lexemes : List Lexeme}, draft.Ready rest →
    (lexFrom draft rest = some lexemes ↔ draft.Reads lexemes rest))

include agrees

theorem lexFrom_outside_nil (later : List Lexeme) :
    lexFrom (.outside []) rest = some later ↔ Spells later rest :=
  @agrees (.outside []) later ⟨nofun, nofun⟩

/-- Between lexemes, the characters taken so far are the beginning of a word. -/
theorem lexFrom_outside_cons (ready : (Draft.outside taken).Ready (c :: rest)) :
    lexFrom (.outside taken) (c :: rest) = some lexemes ↔ Spells lexemes (taken ++ c :: rest) := by
  have again := lexFrom_outside_nil agrees
  rw [lexFrom]
  cases letter : isWordChar c with
  | true =>
    have letters : ∀ d ∈ taken ++ [c], isWordChar d = true := by
      intro d mem
      rcases List.mem_append.mp mem with mem | mem
      · exact ready.1 d mem
      · rwa [List.mem_singleton.mp mem]
    rw [if_pos rfl, List.append_cons taken c rest]
    cases goesOn : rest.head?.any isWordChar with
    | true => exact @agrees (.outside (taken ++ [c])) _ ⟨letters, fun _ => goesOn⟩
    | false =>
      rw [if_neg Bool.false_ne_true, spells_word_iff letters (by simp) goesOn]
      simp only [Option.bind_eq_bind, Option.bind_eq_some_iff, Word.ofSpelling?_eq_some_iff, again,
        Option.pure_def, Option.some.injEq, exists_and_left, @eq_comm _ lexemes]
  | false =>
    -- Nothing has been taken, as the word would have ended before.
    obtain rfl : taken = [] := by
      by_contra some
      have goesOn : isWordChar c = true := ready.2 some
      simp [letter] at goesOn
    rw [if_neg Bool.false_ne_true, List.nil_append]
    cases blank : isBlank c with
    | true => rw [if_pos rfl, again, spells_blank_iff blank]
    | false =>
      rw [if_neg Bool.false_ne_true]
      by_cases quote : c = '"'
      · subst quote
        rw [if_pos rfl, spells_quote_iff]
        exact @agrees (.text []) _ trivial
      · rw [if_neg quote, spells_mark_iff letter blank quote]
        simp only [Option.bind_eq_bind, Option.bind_eq_some_iff, Mark.ofChar?_eq_some_iff, again,
          Option.pure_def, Option.some.injEq, exists_and_left, @eq_comm _ lexemes]

theorem lexFrom_text_cons :
    lexFrom (.text done) (c :: rest) = some lexemes ↔ Continues lexemes done (c :: rest) := by
  have again := lexFrom_outside_nil agrees
  rw [lexFrom]
  by_cases quote : c = '"'
  · subst quote
    rw [if_pos rfl, Option.map_eq_some_iff]
    constructor
    · rintro ⟨later, spells, rfl⟩
      exact .close ((again later).mp spells) rfl
    · intro continues
      cases continues with
      | close spells found => exact ⟨_, (again _).mpr spells, found.symm⟩
      | plain isPlain => cases isPlain
  rw [if_neg quote]
  by_cases backslash : c = '\\'
  · subst backslash
    rw [if_pos rfl]
    refine (@agrees (.escape done []) lexemes rfl).trans ⟨?_, ?_⟩
    · rintro ⟨more, d, after, escaped, rfl, continues⟩
      exact .escape escaped continues
    · intro continues
      cases continues with
      | plain isPlain => cases isPlain
      | escape escaped continues => exact ⟨_, _, _, escaped, rfl, continues⟩
  rw [if_neg backslash]
  by_cases isPlain : isPlain c = true
  · rw [if_pos isPlain]
    refine (@agrees (.text (done ++ [c])) lexemes trivial).trans ⟨.plain isPlain, ?_⟩
    intro continues
    cases continues with
    | close => exact absurd rfl quote
    | plain _ continues => exact continues
    | escape => exact absurd rfl backslash
  · rw [if_neg isPlain]
    refine ⟨nofun, ?_⟩
    intro continues
    cases continues with
    | close => exact absurd rfl quote
    | plain plain => exact absurd plain isPlain
    | escape => exact absurd rfl backslash

theorem lexFrom_escape_cons (ready : escaped? spelling = none) :
    lexFrom (.escape done spelling) (c :: rest) = some lexemes ↔
      (Draft.escape done spelling).Reads lexemes (c :: rest) := by
  have taken {more after : List Char} {d : Char} (escaped : escaped? (spelling ++ more) = some d)
      (made : c :: rest = more ++ after) :
      ∃ others, more = c :: others ∧ rest = others ++ after := by
    cases more with
    | nil => simp [ready] at escaped
    | cons first others =>
      cases made
      exact ⟨others, rfl, rfl⟩
  rw [lexFrom]
  cases escaped : escaped? (spelling ++ [c]) with
  | some d =>
    refine (@agrees (.text (done ++ [d])) lexemes trivial).trans ⟨?_, ?_⟩
    · exact fun continues => ⟨[c], d, rest, escaped, rfl, continues⟩
    · rintro ⟨more, d', after, longer, made, continues⟩
      obtain ⟨others, rfl, rfl⟩ := taken longer made
      rw [List.append_cons] at longer
      obtain rfl := escaped?_append escaped longer
      rw [List.append_nil, escaped] at longer
      cases longer
      exact continues
  | none =>
    refine (@agrees (.escape done (spelling ++ [c])) lexemes escaped).trans ⟨?_, ?_⟩
    · rintro ⟨more, d, after, longer, rfl, continues⟩
      exact ⟨c :: more, d, after, by rwa [List.append_cons], rfl, continues⟩
    · rintro ⟨more, d, after, longer, made, continues⟩
      obtain ⟨others, rfl, rfl⟩ := taken longer made
      exact ⟨others, d, after, by rwa [← List.append_cons], rfl, continues⟩

end Steps

theorem lexFrom_eq_some_iff {lexemes : List Lexeme} (chars : List Char) {draft : Draft}
    (ready : draft.Ready chars) :
    lexFrom draft chars = some lexemes ↔ draft.Reads lexemes chars := by
  induction chars generalizing draft lexemes with
  | nil =>
    cases draft with
    | outside taken =>
      obtain rfl : taken = [] := by simpa using ready.2
      simp [lexFrom, Draft.Reads, spells_nil_iff, eq_comm]
    | text done =>
      refine ⟨nofun, ?_⟩
      rintro (_ | _ | _)
    | escape done spelling =>
      refine ⟨nofun, ?_⟩
      rintro ⟨more, c, rest, escaped, made, -⟩
      obtain ⟨rfl, rfl⟩ := List.append_eq_nil_iff.mp made.symm
      rw [List.append_nil, show escaped? spelling = none from ready] at escaped
      cases escaped
  | cons c rest ih =>
    cases draft with
    | outside taken => exact lexFrom_outside_cons ih ready
    | text done => exact lexFrom_text_cons ih
    | escape done spelling => exact lexFrom_escape_cons ih ready

/-- The lexemes that are found in a text are those that it spells. -/
theorem lex?_eq_some_iff {text : String} {lexemes : List Lexeme} :
    lex? text = some lexemes ↔ Spells lexemes text.toList :=
  lexFrom_eq_some_iff text.toList ⟨nofun, nofun⟩

/-! ## Texts in quotes -/

/-- The four digits of a control character stand for it. -/
theorem escaped?_hexDigits {c : Char} (control : c.toNat < 32) :
    escaped? ('u' :: hexDigits c.toNat) = some c := by
  have all : ∀ code < 32, escaped? ('u' :: hexDigits code) = some (.ofNat code) := by decide
  rw [all c.toNat control, Char.ofNat_toNat]

/-- Every character is written as it is or behind a backslash. -/
theorem Quotes.escapeChar {text written : List Char} (rest : Quotes text written) (c : Char) :
    Quotes (c :: text) (escapeChar c ++ written) := by
  unfold Json.escapeChar
  split_ifs with quote backslash backspace tab newline feed ret control
  · subst quote
    exact .escape rfl rest
  · subst backslash
    exact .escape rfl rest
  · subst backspace
    exact .escape rfl rest
  · subst tab
    exact .escape rfl rest
  · subst newline
    exact .escape rfl rest
  · subst feed
    exact .escape rfl rest
  · subst ret
    exact .escape rfl rest
  · exact .escape (escaped?_hexDigits control) rest
  · exact .plain (by simp [isPlain, quote, backslash, Nat.le_of_not_lt control]) rest

theorem quotes_flatMap_escapeChar (text : List Char) : Quotes text (text.flatMap escapeChar) := by
  induction text with
  | nil => exact .nil
  | cons c rest ih => exact ih.escapeChar c

/-- A text in quotes is a string. -/
theorem Spells.quote {lexemes : List Lexeme} {rest : List Char} (spells : Spells lexemes rest)
    (value : String) : Spells (.text value :: lexemes) (quote value ++ rest) := by
  have spelled := Spells.text (quotes_flatMap_escapeChar value.toList) spells
  simpa [Json.quote] using spelled

end Gamebook.Json
