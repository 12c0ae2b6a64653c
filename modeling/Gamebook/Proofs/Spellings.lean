import Gamebook.Proofs.Words
import Mathlib.Data.List.Forall2

/-!
# Spellings of keywords

The name of a directive is its first word in lower case.  So a keyword has more than one
spelling, and lower-casing knows more letters than those of ASCII.  What a keyword may look
like is settled by going backwards through the tables: the only characters that become an
ASCII character are that character itself, its capital, and for a small k the Kelvin sign
(`lowerChar_cases`).  The dotted capital I leaves a combining dot behind it, and a capital
sigma is a Greek letter wherever it stands.  Neither gives a word in ASCII.

So a word is lowered to a name in ASCII exactly when it is written letter by letter
(`lower_eq_iff`), and `keyword?_eq_some_iff_written` says which words are keywords.
-/

namespace Gamebook.Text

/-! ## Letters -/

/-- How a letter may be written so that lower-casing gives it back: as it is, as its capital
if it is a small letter of ASCII, and a small k as the Kelvin sign. -/
inductive Writes : Char → Char → Prop where
  /-- As it is. -/
  | same (letter : Char) : Writes letter letter
  /-- As its capital. -/
  | capital {letter : Char} (small : letter.isLower = true) : Writes letter letter.toUpper
  /-- As the sign of the unit of temperature. -/
  | kelvin : Writes 'k' '\u212a'

/-- The character is in ASCII and no capital. -/
def IsPlain (c : Char) : Prop := c.toNat < 128 ∧ c.isUpper = false

instance (c : Char) : Decidable (IsPlain c) := inferInstanceAs (Decidable (_ ∧ _))

theorem code_of_isLower {c : Char} (small : c.isLower = true) : 97 ≤ c.toNat ∧ c.toNat ≤ 122 := by
  unfold Char.isLower at small
  rw [Bool.and_eq_true, decide_eq_true_eq, decide_eq_true_eq] at small
  exact small

/-- What is not written as itself is a letter. -/
theorem Writes.eq_or_small {letter written : Char} (writes : Writes letter written) :
    letter = written ∨ 97 ≤ letter.toNat := by
  cases writes with
  | same => exact .inl rfl
  | capital small => exact .inr (code_of_isLower small).1
  | kelvin => exact .inr (by decide)

/-! ## Backwards through the tables -/

theorem CaseRun.lower?_eq_some_iff {run : CaseRun} {code lowered : Nat} :
    run.lower? code = some lowered ↔
      (run.first ≤ code ∧ code ≤ run.last ∧ (code - run.first) % run.step = 0) ∧
        run.target + (code - run.first) = lowered := by
  unfold lower?
  split <;> simp_all

/-- Two runs lead to ASCII. -/
theorem ascii_of_mem_lowerRuns : ∀ run ∈ lowerRuns, run.target < 128 →
    run = ⟨0x0041, 0x005A, 1, 0x0061⟩ ∨ run = ⟨0x212A, 0x212A, 1, 0x006B⟩ := by
  decide +kernel

/-- No run leads to a code point that is no character. -/
theorem valid_of_mem_lowerRuns : ∀ run ∈ lowerRuns,
    run.target + (run.last - run.first) < 0xD800 ∨
      0xDFFF < run.target ∧ run.target + (run.last - run.first) < 0x110000 := by
  decide +kernel

theorem toNat_lowered {run : CaseRun} (isRow : run ∈ lowerRuns) {code lowered : Nat}
    (lowers : run.lower? code = some lowered) : (Char.ofNat lowered).toNat = lowered := by
  obtain ⟨⟨above, below, -⟩, rfl⟩ := CaseRun.lower?_eq_some_iff.mp lowers
  have row := valid_of_mem_lowerRuns run isRow
  have valid : (run.target + (code - run.first)).isValidChar := by
    simp only [Nat.isValidChar]
    omega
  rw [Char.ofNat, dif_pos valid]
  rfl

theorem writes_capital {code : Nat} (above : 65 ≤ code) (below : code ≤ 90) :
    Writes (Char.ofNat (code + 32)) (Char.ofNat code) := by
  have letters : ∀ index < 26, (Char.ofNat (65 + index + 32)).isLower = true ∧
      (Char.ofNat (65 + index + 32)).toUpper = Char.ofNat (65 + index) := by decide
  obtain ⟨index, rfl⟩ := Nat.exists_eq_add_of_le above
  obtain ⟨small, upper⟩ := letters index (by omega)
  rw [← upper]
  exact .capital small

/-- What the table sends to ASCII is a capital or the Kelvin sign. -/
theorem writes_of_lower? {run : CaseRun} (isRow : run ∈ lowerRuns) {c : Char} {lowered : Nat}
    (lowers : run.lower? c.toNat = some lowered) (ascii : lowered < 128) :
    Writes (Char.ofNat lowered) c := by
  obtain ⟨⟨above, below, -⟩, rfl⟩ := CaseRun.lower?_eq_some_iff.mp lowers
  rcases ascii_of_mem_lowerRuns run isRow (by omega) with rfl | rfl
  · have code : 0x0061 + (c.toNat - 0x0041) = c.toNat + 32 := by simp only at above; omega
    have writes := writes_capital above below
    rwa [Char.ofNat_toNat, ← code] at writes
  · have isKelvin : c = '\u212a' := Char.toNat_inj.mp (Nat.le_antisymm below above)
    subst isKelvin
    exact .kelvin

/-- A character becomes one character, which it writes if that is in ASCII, or it is the
dotted capital I. -/
theorem lowerChar_cases (c : Char) :
    lowerChar c = ['i', '\u0307'] ∨
      ∃ letter, lowerChar c = [letter] ∧ (letter.toNat < 128 → Writes letter c) := by
  unfold lowerChar
  split
  next => exact .inl rfl
  next =>
    split
    next lowered found =>
      obtain ⟨run, isRow, lowers⟩ := List.exists_of_findSome?_eq_some found
      refine .inr ⟨_, rfl, fun ascii => writes_of_lower? isRow lowers ?_⟩
      rwa [toNat_lowered isRow lowers] at ascii
    next => exact .inr ⟨c, rfl, fun _ => .same c⟩

/-! ## Forwards through the tables -/

theorem lowerChar_of_isPlain {c : Char} (plain : IsPlain c) : lowerChar c = [c] := by
  have codes : ∀ code < 128, IsPlain (Char.ofNat code) →
      lowerChar (Char.ofNat code) = [Char.ofNat code] := by decide +kernel
  have own := codes c.toNat plain.1
  rw [Char.ofNat_toNat] at own
  exact own plain

theorem lowerChar_toUpper {c : Char} (small : c.isLower = true) : lowerChar c.toUpper = [c] := by
  have codes : ∀ code < 128, (Char.ofNat code).isLower = true →
      lowerChar (Char.ofNat code).toUpper = [Char.ofNat code] := by decide +kernel
  have below : c.toNat < 128 := Nat.lt_of_le_of_lt (code_of_isLower small).2 (by decide)
  have own := codes c.toNat below
  rw [Char.ofNat_toNat] at own
  exact own small

theorem lowerChar_of_writes {letter written : Char} (writes : Writes letter written)
    (plain : IsPlain letter) : lowerChar written = [letter] := by
  cases writes with
  | same => exact lowerChar_of_isPlain plain
  | capital small => exact lowerChar_toUpper small
  | kelvin => decide +kernel

theorem ne_sigma_of_writes {letter written : Char} (writes : Writes letter written)
    (plain : IsPlain letter) : written ≠ 'Σ' := by
  rintro rfl
  have medial := lowerChar_of_writes writes plain
  have greek : lowerChar 'Σ' = ['σ'] := by decide +kernel
  rw [greek] at medial
  obtain rfl := List.singleton_inj.mp medial
  exact absurd plain (by decide)

/-! ## Words -/

theorem lowerAfter_cons (before : List Char) (c : Char) (rest : List Char) :
    lowerAfter before (c :: rest) =
      (if c = 'Σ' then [lowerSigma before rest] else lowerChar c) ++
        lowerAfter (c :: before) rest := rfl

theorem not_isPlain_lowerSigma (before after : List Char) :
    ¬ IsPlain (lowerSigma before after) := by
  unfold lowerSigma
  split <;> decide

/-- A word is lowered to a name in ASCII if it is the name letter by letter, and only then.
What stands before it does not matter, since that is asked for a capital sigma only. -/
theorem lowerAfter_eq_iff {before word name : List Char} (plain : ∀ c ∈ name, IsPlain c) :
    lowerAfter before word = name ↔ List.Forall₂ Writes name word := by
  induction word generalizing before name with
  | nil =>
    rw [List.forall₂_nil_right_iff]
    exact eq_comm
  | cons c rest ih =>
    rw [lowerAfter_cons]
    constructor
    · intro lowered
      subst lowered
      split at plain
      next isSigma =>
        have atHead := plain _ List.mem_cons_self
        exact absurd atHead (not_isPlain_lowerSigma before rest)
      next notSigma =>
        rw [if_neg notSigma]
        obtain ⟨own, others⟩ := List.forall_mem_append.mp plain
        rcases lowerChar_cases c with dotted | ⟨letter, single, writes⟩
        · rw [dotted] at own
          exact absurd (own '\u0307' (by decide)) (by decide)
        · rw [single, List.singleton_append]
          rw [single, List.forall_mem_singleton] at own
          exact .cons (writes own.1) ((ih others).mp rfl)
    · intro written
      cases written with
      | cons writes later =>
        obtain ⟨own, others⟩ := List.forall_mem_cons.mp plain
        rw [if_neg (ne_sigma_of_writes writes own), lowerChar_of_writes writes own,
          (ih others).mpr later]
        rfl

/-- A word is lowered to a name in ASCII if it is the name letter by letter, and only then. -/
theorem lower_eq_iff {word name : List Char} (plain : ∀ c ∈ name, IsPlain c) :
    lower word = name ↔ List.Forall₂ Writes name word :=
  lowerAfter_eq_iff plain

/-- Lower-casing makes letters only: what is before them in the order of code points was
there. -/
theorem mem_of_mem_lower {text : List Char} {c : Char} (early : c.toNat < 97)
    (inside : c ∈ lower text) : c ∈ text := by
  rw [lower] at inside
  generalize [] = before at inside
  induction text generalizing before with
  | nil => cases inside
  | cons first rest ih =>
    rw [lowerAfter_cons, List.mem_append] at inside
    rcases inside with isFirst | later
    · split at isFirst
      next =>
        obtain rfl := List.mem_singleton.mp isFirst
        have late : 97 ≤ (lowerSigma before rest).toNat := by
          unfold lowerSigma
          split <;> decide
        omega
      next =>
        rcases lowerChar_cases first with dotted | ⟨letter, single, writes⟩
        · rw [dotted] at isFirst
          have late : ∀ d ∈ ['i', '\u0307'], 97 ≤ d.toNat :=
            List.forall_mem_cons.mpr ⟨by decide, List.forall_mem_singleton.mpr (by decide)⟩
          exact absurd (late c isFirst) (by omega)
        · rw [single] at isFirst
          obtain rfl := List.mem_singleton.mp isFirst
          rcases (writes (by omega)).eq_or_small with rfl | small
          · exact List.mem_cons_self
          · omega
    · exact List.mem_cons_of_mem first (ih _ later)

end Gamebook.Text

namespace Gamebook.Script

open Gamebook.Text (IsPlain Writes lower lower_eq_iff words)

/-! ## Keywords -/

theorem Keyword.isPlain_spelling (keyword : Keyword) :
    ∀ c ∈ keyword.spelling.toList, IsPlain c := by
  have checked : keyword.spelling.toList.all (decide <| IsPlain ·) = true := by
    cases keyword <;> decide
  intro c inside
  exact of_decide_eq_true (List.all_eq_true.mp checked c inside)

theorem Keyword.spelling_ne_empty (keyword : Keyword) : keyword.spelling ≠ "" := by
  cases keyword <;> decide

/-- A directive has a keyword if it has a first word and this is the keyword letter by letter,
and only then. -/
theorem Directive.keyword?_eq_some_iff_written (text : String) (line : Nat) (keyword : Keyword) :
    (ofText text line).keyword? = some keyword ↔
      ∃ word others, words text.toList = word :: others ∧
        List.Forall₂ Writes keyword.spelling.toList word := by
  rw [keyword?, Keyword.ofSpelling?_eq_some_iff, name_ofText]
  cases split : words text.toList with
  | nil =>
    refine iff_of_false keyword.spelling_ne_empty ?_
    rintro ⟨_, _, none, -⟩
    cases none
  | cons word others =>
    rw [List.headD_cons]
    constructor
    · intro same
      exact ⟨word, others, rfl, (lower_eq_iff keyword.isPlain_spelling).mp
        (by rw [same, String.toList_ofList])⟩
    · rintro ⟨_, _, ⟨⟩, written⟩
      rw [(lower_eq_iff keyword.isPlain_spelling).mpr written, String.ofList_toList]

example : (Directive.ofText "BOO\u212a" 1).keyword? = some .openBook := by decide +kernel
example : (Directive.ofText "\u0130F x" 1).keyword? = none := by decide +kernel

end Gamebook.Script
