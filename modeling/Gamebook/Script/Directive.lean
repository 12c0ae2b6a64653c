import Gamebook.Text.LowerCase

/-!
# Directives

The text of a directive is a sequence of words.  The first one, in lower case,
is the *name* of the directive.  The others are its *fields*.  A directive
without any word has the empty name.

The vocabulary has ten *keywords*.  A name is a keyword only if it is spelled
exactly so.
-/

namespace Gamebook.Script

open Gamebook.Text (words joinWords lower)

/-! ## Keywords -/

/-- The vocabulary of directives. -/
inductive Keyword where
  /-- The book, titled by the paragraph that follows. -/
  | openBook
  /-- A chapter with its id, titled by the paragraph that follows. -/
  | openChapter
  /-- A section with its id, titled by the paragraph that follows. -/
  | openSection
  /-- A conditional branch with its condition. -/
  | openIf
  /-- The alternative of the open branch. -/
  | openElse
  /-- The end of the open branch. -/
  | closeIf
  /-- An item gained, or lost after the word `remove`. -/
  | item
  /-- A change of state with its id and modifier. -/
  | state
  /-- A link to a section of the same chapter. -/
  | next
  /-- A link to a section of any chapter. -/
  | jump
  deriving DecidableEq, Repr

namespace Keyword

/-- The vocabulary in full. -/
def all : List Keyword :=
  [openBook, openChapter, openSection, openIf, openElse, closeIf, item, state, next, jump]

/-- The name of a directive with this keyword. -/
def spelling : Keyword → String
  | openBook => "book"
  | openChapter => "chapter"
  | openSection => "section"
  | openIf => "if"
  | openElse => "else"
  | closeIf => "endif"
  | item => "item"
  | state => "state"
  | next => ">"
  | jump => ">>"

/-- The keyword that is spelled so. -/
def ofSpelling? (name : String) : Option Keyword := all.find? (·.spelling = name)

/-- Every keyword is in the vocabulary. -/
theorem mem_all (keyword : Keyword) : keyword ∈ all := by
  cases keyword <;> decide

/-- Different keywords are spelled differently. -/
theorem spelling_injective {first second : Keyword} (h : first.spelling = second.spelling) :
    first = second := by
  cases first <;> cases second <;> first | rfl | exact absurd h (by decide)

/-- A name gives a keyword exactly when it is its spelling. -/
theorem ofSpelling?_eq_some_iff {name : String} {keyword : Keyword} :
    ofSpelling? name = some keyword ↔ keyword.spelling = name := by
  constructor
  · intro found
    simpa using List.find?_some found
  · rintro rfl
    have known : (ofSpelling? keyword.spelling).isSome = true :=
      List.find?_isSome.mpr ⟨keyword, mem_all keyword, decide_eq_true rfl⟩
    obtain ⟨other, found⟩ := Option.isSome_iff_exists.mp known
    have same : other.spelling = keyword.spelling := by simpa using List.find?_some found
    rw [found, spelling_injective same]

end Keyword

/-! ## Directives -/

/-- The words of a command line. -/
structure Directive where
  /-- The first word in lower case, empty if there is none. -/
  name : String
  /-- The other words. -/
  fields : List String
  /-- The line of the command. -/
  line : Nat
  deriving DecidableEq, Repr

namespace Directive

/-- Takes the text of a directive apart. -/
def ofText (text : String) (line : Nat) : Directive :=
  match words text.toList with
  | [] => ⟨"", [], line⟩
  | first :: others => ⟨String.ofList (lower first), others.map String.ofList, line⟩

/-- The keyword, if the name is in the vocabulary. -/
def keyword? (directive : Directive) : Option Keyword := Keyword.ofSpelling? directive.name

/-- The field with this index, counted from zero. -/
def field? (directive : Directive) (index : Nat) : Option String := directive.fields[index]?

/-- The fields from this index on, with a space between each two. -/
def rest (directive : Directive) (index : Nat) : String :=
  " ".intercalate (directive.fields.drop index)

end Directive

end Gamebook.Script
