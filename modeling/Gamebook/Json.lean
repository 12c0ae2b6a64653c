/-!
# JSON

The values that reports are made of.  Numbers are counts, so they are natural
numbers.  An object is a list of fields, and the order of the fields is the
order in which they are written.

A value is written in one of two layouts that differ in white space only.  The
*compact* layout has none.  The *pretty* layout puts every item and every field
on a line of its own, two spaces further in than what holds it, and a space
after each colon.  In both, an empty list is `[]` and an empty object `{}`.

Within a string, the quote, the backslash and the characters below U+0020 are
escaped, and nothing else.  Five of the latter have a letter, and the others are
written with four hexadecimal digits.
-/

namespace Gamebook

/-- A JSON value whose numbers are natural. -/
inductive Json where
  /-- The absent value. -/
  | null
  /-- A truth value. -/
  | bool (value : Bool)
  /-- A count. -/
  | num (value : Nat)
  /-- A text. -/
  | str (value : String)
  /-- A list of values. -/
  | arr (items : List Json)
  /-- A list of named values. -/
  | obj (fields : List (String × Json))
  deriving Repr

namespace Json

/-- A text that may be absent. -/
def optStr : Option String → Json
  | some text => .str text
  | none => .null

/-- A count that may be absent. -/
def optNum : Option Nat → Json
  | some value => .num value
  | none => .null

/-! ## Strings -/

/-- A code point below 256 as four hexadecimal digits. -/
def hexDigits (code : Nat) : List Char :=
  ['0', '0', Nat.digitChar (code / 16), Nat.digitChar (code % 16)]

/-- The character as it is written inside of a string. -/
def escapeChar (c : Char) : List Char :=
  if c = '"' then ['\\', '"']
  else if c = '\\' then ['\\', '\\']
  else if c = '\x08' then ['\\', 'b']
  else if c = '\t' then ['\\', 't']
  else if c = '\n' then ['\\', 'n']
  else if c = '\x0c' then ['\\', 'f']
  else if c = '\r' then ['\\', 'r']
  else if c.toNat < 32 then '\\' :: 'u' :: hexDigits c.toNat
  else [c]

/-- The text as a JSON string. -/
def quote (text : String) : List Char := '"' :: text.toList.flatMap escapeChar ++ ['"']

/-! ## Layouts -/

/-- Where white space goes. -/
structure Layout where
  /-- What separates two lines, of which the second is this deep. -/
  lineBreak : Nat → List Char
  /-- What follows a colon. -/
  afterColon : List Char

namespace Layout

/-- No white space. -/
def compact : Layout := ⟨fun _ => [], []⟩

/-- One line for each item, two spaces for each level. -/
def pretty : Layout := ⟨fun depth => '\n' :: List.replicate (2 * depth) ' ', [' ']⟩

end Layout

/-! ## Text of values -/

mutual

/-- The value at this depth. -/
def render (layout : Layout) (depth : Nat) : Json → List Char
  | .null => "null".toList
  | .bool true => "true".toList
  | .bool false => "false".toList
  | .num value => value.repr.toList
  | .str value => quote value
  | .arr [] => ['[', ']']
  | .arr (item :: rest) =>
    '[' :: layout.lineBreak (depth + 1) ++ render layout (depth + 1) item ++
      renderItems layout (depth + 1) rest ++ layout.lineBreak depth ++ [']']
  | .obj [] => ['\x7b', '\x7d']
  | .obj ((key, value) :: rest) =>
    '\x7b' :: layout.lineBreak (depth + 1) ++ quote key ++ ':' :: layout.afterColon ++
      render layout (depth + 1) value ++ renderFields layout (depth + 1) rest ++
      layout.lineBreak depth ++ ['\x7d']

/-- The items after the first. -/
def renderItems (layout : Layout) (depth : Nat) : List Json → List Char
  | [] => []
  | item :: rest =>
    ',' :: layout.lineBreak depth ++ render layout depth item ++ renderItems layout depth rest

/-- The fields after the first. -/
def renderFields (layout : Layout) (depth : Nat) : List (String × Json) → List Char
  | [] => []
  | (key, value) :: rest =>
    ',' :: layout.lineBreak depth ++ quote key ++ ':' :: layout.afterColon ++
      render layout depth value ++ renderFields layout depth rest

end

/-- The value on one line. -/
def compact (value : Json) : String := String.ofList (render .compact 0 value)

/-- The value on a line for each item. -/
def pretty (value : Json) : String := String.ofList (render .pretty 0 value)

example : compact (.arr [.num 10, .str "a\"b\n"]) = "[10,\"a\\\"b\\n\"]" := by decide +kernel
example : pretty (.arr [.null, .arr []]) = "[\n  null,\n  []\n]" := by decide +kernel

end Json

end Gamebook
