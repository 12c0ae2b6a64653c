import Gamebook.Text.Casing

/-!
# Lower case

Full Unicode lower-casing of a word.  Each character is lowered by itself, with
two exceptions.

* Capital I with a dot above, U+0130, becomes a small i and a combining dot.
* Capital sigma becomes the final form at the end of a word and the medial form
  elsewhere.  It stands at the end when a cased letter precedes it and none
  follows it, where characters that casing ignores are passed over.
-/

namespace Gamebook.Text

/-! ## Characters -/

/-- The lower-case form of a character, whatever stands around it. -/
def lowerChar (c : Char) : List Char :=
  if c = '\u0130' then ['i', '\u0307']
  else match lowerRuns.findSome? (·.lower? c.toNat) with
    | some code => [Char.ofNat code]
    | none => [c]

/-- The first character that casing does not ignore is a cased letter. -/
def meetsCased (text : List Char) : Bool :=
  match text.dropWhile (inRuns ignorableRuns) with
  | [] => false
  | c :: _ => inRuns casedRuns c

/-! ## Words -/

/-- The lower-case form of a capital sigma between two texts.  The text before
it is given last character first. -/
def lowerSigma (before after : List Char) : Char :=
  if meetsCased before && !meetsCased after then 'ς' else 'σ'

/-- Lowers a text that follows another one, given last character first. -/
def lowerAfter (before : List Char) : List Char → List Char
  | [] => []
  | c :: rest =>
    let lowered := if c = 'Σ' then [lowerSigma before rest] else lowerChar c
    lowered ++ lowerAfter (c :: before) rest

/-- The text in lower case. -/
def lower (text : List Char) : List Char := lowerAfter [] text

example : lower "IF".toList = "if".toList := by decide +kernel
example : lower "ΟΔΟΣ ΣΑ".toList = "οδος σα".toList := by decide +kernel

end Gamebook.Text
