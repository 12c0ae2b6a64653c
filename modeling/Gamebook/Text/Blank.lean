/-!
# Blank characters and words

A Unicode property is given as a table.  A row of the table is a *run*, every
code point between two ends, both included.  Membership looks at the rows in
turn, so it is decided by evaluation on any closed character.

A character is *blank* when it has the Unicode property White_Space.  There are
twenty-five of them.  The no-break spaces U+00A0 and U+202F are blank.  The
zero-width space U+200B and the byte order mark U+FEFF are not.  Trimming drops
the blank characters at an end and keeps those inside.

A line is cut into words at every ordinary space and every no-break space.  The
other blanks do not separate: a tab inside a word stays there.  They are dropped
at the ends of a word, and a word that consists of nothing else is dropped.
-/

namespace Gamebook.Text

/-! ## Runs of code points -/

/-- Every code point from `first` to `last`. -/
structure CodeRun where
  /-- The smallest code point of the run. -/
  first : Nat
  /-- The largest code point of the run. -/
  last : Nat
  deriving DecidableEq

/-- The code point lies between the ends of the run. -/
def CodeRun.contains (run : CodeRun) (code : Nat) : Bool :=
  run.first ≤ code && code ≤ run.last

/-- The character belongs to some run of the table. -/
def inRuns (table : List CodeRun) (c : Char) : Bool :=
  table.any (·.contains c.toNat)

/-! ## White space -/

/-- The code points of the property White_Space. -/
def blankRuns : List CodeRun :=
  [⟨0x0009, 0x000D⟩, ⟨0x0020, 0x0020⟩, ⟨0x0085, 0x0085⟩, ⟨0x00A0, 0x00A0⟩,
   ⟨0x1680, 0x1680⟩, ⟨0x2000, 0x200A⟩, ⟨0x2028, 0x2029⟩, ⟨0x202F, 0x202F⟩,
   ⟨0x205F, 0x205F⟩, ⟨0x3000, 0x3000⟩]

/-- The character is white space. -/
def isBlank (c : Char) : Bool := inRuns blankRuns c

example : (isBlank ' ' && isBlank '\t' && isBlank '\r' && isBlank '\u3000') = true := by decide
example : (isBlank 'a' || isBlank '\u200b' || isBlank '\ufeff') = false := by decide

/-! ## Trimming -/

/-- The text without its leading blanks. -/
def trimStart (text : List Char) : List Char := text.dropWhile isBlank

/-- The text without its trailing blanks. -/
def trimEnd (text : List Char) : List Char := (trimStart text.reverse).reverse

/-- The text without the blanks at either end. -/
def trim (text : List Char) : List Char := trimEnd (trimStart text)

/-- A text without blanks at its start is empty only if there was nothing else. -/
theorem trimStart_eq_nil_iff {text : List Char} :
    trimStart text = [] ↔ ∀ c ∈ text, isBlank c = true := by
  induction text with
  | nil => simp [trimStart]
  | cons c rest ih =>
    by_cases blank : isBlank c = true
    · have dropped : trimStart (c :: rest) = trimStart rest := List.dropWhile_cons_of_pos blank
      rw [dropped, ih, List.forall_mem_cons]
      exact (and_iff_right blank).symm
    · simp [trimStart, blank]

/-- A text without blanks at its end is empty only if there was nothing else. -/
theorem trimEnd_eq_nil_iff {text : List Char} :
    trimEnd text = [] ↔ ∀ c ∈ text, isBlank c = true := by
  simp [trimEnd, trimStart_eq_nil_iff]

/-- What trimming the start leaves begins with no blank. -/
theorem isBlank_head_trimStart {text rest : List Char} {c : Char}
    (h : trimStart text = c :: rest) : isBlank c = false := by
  have first := List.head?_dropWhile_not isBlank text
  rw [trimStart] at h
  simpa [h] using first

/-- A trimmed text is empty only if there was nothing but blanks. -/
theorem trim_eq_nil_iff {text : List Char} :
    trim text = [] ↔ ∀ c ∈ text, isBlank c = true := by
  constructor
  · intro empty
    rw [trim, trimEnd_eq_nil_iff] at empty
    cases start : trimStart text with
    | nil => exact trimStart_eq_nil_iff.mp start
    | cons c rest =>
      rw [start] at empty
      simp [isBlank_head_trimStart start] at empty
  · intro blank
    rw [trim, trimStart_eq_nil_iff.mpr blank]
    rfl

example : trim [' ', 'a', ' ', 'b', '\t'] = ['a', ' ', 'b'] := by decide

/-! ## Words -/

/-- The characters between words: space and no-break space. -/
def isSeparator (c : Char) : Bool := c = ' ' || c = '\u00a0'

/-- The words of a text, in order. -/
def words (text : List Char) : List (List Char) :=
  ((text.splitOnP isSeparator).map trim).filter (!·.isEmpty)

/-- The words with a single space between each two. -/
def joinWords (ws : List (List Char)) : List Char := [' '].intercalate ws

example : words "  go \t on\tnow ".toList = ["go".toList, "on\tnow".toList] := by decide +kernel

end Gamebook.Text
