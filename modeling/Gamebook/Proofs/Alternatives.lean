import Gamebook.Proofs.Census
import Gamebook.Proofs.Warnings

/-!
# What a parsed book is made of

In lenient mode a branch and its alternatives need not stand side by side.  They
can be in different sections and chapters, and there can be several
alternatives.  What still holds is that an alternative has the condition of the
last branch before it, in the order of presentation of the whole book
(`Book.Sound.paired`).  So a player program that goes through the book in order
knows from one condition which of the bodies to tell.

Two arguments are behind this.  A condition is written down when the branch is
opened, and the ledger has it for as long as the branch is open
(`Ledger.Follows`).  And what is added goes to the end of the book, or to a body,
where it does not come between a branch and an alternative (`Growth.shown`).
-/

namespace Gamebook.Story

/-! ## Elements in the order of presentation -/

/-- The elements of the book in order, without those inside of branches. -/
def Book.elements (book : Book) : List Element :=
  book.sections.flatMap fun (_, here) => here.elements

/-- The condition of the branch, if the element is one that is told when its
condition holds. -/
def Element.ifCondition? : Element → Option String
  | .branch .ifBranch condition _ => some condition
  | _ => none

/-- Each alternative has the condition of the last branch before it, where this
is the condition of the last branch before the elements. -/
inductive Paired : Option String → List Element → Prop where
  /-- No element. -/
  | nil (last : Option String) : Paired last []
  /-- A leaf in front. -/
  | leaf {last : Option String} {rest : List Element} (leaf : Leaf) (later : Paired last rest) :
      Paired last (.leaf leaf :: rest)
  /-- A branch in front. -/
  | ifBranch {last : Option String} {condition : String} {rest : List Element}
      (body : List Element) (later : Paired (some condition) rest) :
      Paired last (.branch .ifBranch condition body :: rest)
  /-- An alternative of the last branch in front. -/
  | elseBranch {condition : String} {rest : List Element} (body : List Element)
      (later : Paired (some condition) rest) :
      Paired (some condition) (.branch .elseBranch condition body :: rest)

/-- What an alternative has before it, written out. -/
theorem Paired.last_eq {last : Option String} {before after body : List Element}
    {condition : String}
    (paired : Paired last (before ++ .branch .elseBranch condition body :: after)) :
    (before.filterMap Element.ifCondition?).getLast?.or last = some condition := by
  induction before generalizing last with
  | nil =>
    cases paired
    rfl
  | cons element before ih =>
    cases paired with
    | leaf leaf later => exact ih later
    | elseBranch body later => exact ih later
    | ifBranch body later =>
      rename_i opened
      show ((opened :: before.filterMap Element.ifCondition?).getLast?.or last) = some condition
      rw [List.getLast?_cons, Option.some_or, ← ih later]
      cases (before.filterMap Element.ifCondition?).getLast? <;> rfl

section Sound

variable (Word Text : String → Prop)

/-- What a player program can rely on, whatever the mode of the parse. -/
structure Book.Sound (book : Book) : Prop where
  /-- The ids of chapters and sections, the titles of links and the ids they lead
  to are made of words. -/
  named : ∀ chapter ∈ book.chapters, chapter.Named Word
  /-- So are states, items and conditions.  The body of a branch holds leaves. -/
  elements : ∀ element ∈ book.elements, element.MadeOf Word Text
  /-- An alternative has a branch before it, and its condition is that of the last
  one. -/
  paired : ∀ before condition body after,
    book.elements = before ++ .branch .elseBranch condition body :: after →
      (before.filterMap Element.ifCondition?).getLast? = some condition

end Sound

end Gamebook.Story

namespace Gamebook.Script

open Gamebook.Story

variable {Word Text : String → Prop}

/-! ## Elements that entries add -/

/-- The elements that are added outside of the body that is open at the start, in
order. -/
def Growth.shown (growth : Growth) : List Element :=
  growth.elements ++ (growth.sections.flatMap (·.elements) ++
    growth.chapters.flatMap fun chapter => chapter.sections.flatMap (·.elements))

theorem elements_bookOfEntries {entries : List Entry} (title : String)
    (noElements : (Growth.ofEntries false entries).elements = [])
    (noSections : (Growth.ofEntries false entries).sections = []) :
    (bookOfEntries title entries).elements = (Growth.ofEntries false entries).shown := by
  rw [Growth.shown, noElements, noSections]
  simp [bookOfEntries, Book.elements, Book.sections, List.flatMap_assoc, List.flatMap_map]

theorem Growth.shown_newSection (inBranch : Bool) (id title : String) (later : List Entry) :
    (ofEntries inBranch (.newSection id title :: later)).shown =
      (ofEntries inBranch later).shown := by
  simp [ofEntries, shown]

/-- A chapter does not take in elements that are outside of its sections. -/
theorem Growth.shown_newChapter (inBranch : Bool) (id title : String) (later : List Entry) :
    (ofEntries inBranch later).shown =
      (ofEntries inBranch later).elements ++
        (ofEntries inBranch (.newChapter id title :: later)).shown := by
  simp [ofEntries, shown]

theorem Growth.paired_leaf {inBranch : Bool} {later : List Entry} {condition : Option String}
    (leaf : Leaf) (paired : Paired condition (ofEntries inBranch later).shown) :
    Paired condition (ofEntries inBranch (.leaf leaf :: later)).shown := by
  cases inBranch with
  | false => exact .leaf leaf paired
  | true => exact paired

section MadeOf

variable (Word Text)

/-- What the entry adds to the elements is made of such words and texts. -/
def Entry.MadeOf : Entry → Prop
  | .leaf plain => plain.MadeOf Word Text
  | .openBranch _ condition => IsPhrase Word condition ∧ condition ≠ ""
  | .newChapter _ _ | .newSection _ _ | .link _ | .closeBranch => True

/-- What is added to the elements is made of such words and texts. -/
structure Growth.MadeOf (growth : Growth) : Prop where
  /-- To the body of a branch. -/
  body : ∀ leaf ∈ growth.body, leaf.MadeOf Word Text
  /-- Behind the elements. -/
  shown : ∀ element ∈ growth.shown, element.MadeOf Word Text

/-- The condition of the open branch is a phrase. -/
def Ledger.MadeOf (ledger : Ledger) : Prop :=
  ∀ branch, ledger.branch = some branch → IsPhrase Word branch.condition ∧ branch.condition ≠ ""

end MadeOf

theorem Growth.madeOf_ofEntries {entries : List Entry}
    (madeOf : ∀ entry ∈ entries, entry.MadeOf Word Text) (inBranch : Bool) :
    (ofEntries inBranch entries).MadeOf Word Text := by
  induction entries generalizing inBranch with
  | nil => exact ⟨nofun, nofun⟩
  | cons entry rest ih =>
    obtain ⟨here, others⟩ := List.forall_mem_cons.mp madeOf
    obtain ⟨body, shown⟩ := ih others inBranch
    cases entry with
    | leaf leaf =>
      cases inBranch with
      | false => exact ⟨body, List.forall_mem_cons.mpr ⟨here, shown⟩⟩
      | true => exact ⟨List.forall_mem_cons.mpr ⟨here, body⟩, shown⟩
    | link link => exact ⟨body, shown⟩
    | openBranch kind condition =>
      obtain ⟨inner, shown⟩ := ih others true
      refine ⟨nofun, List.forall_mem_cons.mpr ⟨⟨here.1, here.2, ?_⟩, shown⟩⟩
      intro element isInner
      obtain ⟨leaf, inside, rfl⟩ := List.mem_map.mp isInner
      exact ⟨leaf, rfl, inner leaf inside⟩
    | closeBranch => exact ⟨nofun, (ih others false).shown⟩
    | newSection id title =>
      rw [← shown_newSection inBranch id title] at shown
      exact ⟨body, shown⟩
    | newChapter id title =>
      rw [shown_newChapter inBranch id title] at shown
      exact ⟨body, (List.forall_mem_append.mp shown).2⟩

namespace Ledger

variable {mode : Mode} {ledger next last : Ledger} {token : Token} {entry : Option Entry}
  {tokens : List Token} {entries : List Entry}

theorem Moves.madeOf (moves : Moves mode ledger token next entry) (bears : token.Bears Word Text)
    (madeOf : ledger.MadeOf Word) : next.MadeOf Word ∧ ∀ made ∈ entry, made.MadeOf Word Text := by
  cases moves with
  | @title pending =>
    obtain ⟨heading, opening⟩ := pending
    cases heading with
    | ofBook => exact ⟨madeOf, by rintro _ ⟨⟩⟩
    | ofChapter id | ofSection id => exact ⟨madeOf, forall_mem_some trivial⟩
  | openBook | openChapter | openSection => exact ⟨madeOf, by rintro _ ⟨⟩⟩
  | paragraph isParagraph =>
    exact ⟨madeOf, forall_mem_some ((DerivesLeaf.paragraph isParagraph).madeOf bears)⟩
  | state takes =>
    exact ⟨madeOf, forall_mem_some ((DerivesLeaf.state takes.toReads).madeOf bears)⟩
  | addItem takes kept =>
    exact ⟨madeOf, forall_mem_some ((DerivesLeaf.addItem takes.toReads kept).madeOf bears)⟩
  | removeItem takes removed =>
    exact ⟨madeOf, forall_mem_some ((DerivesLeaf.removeItem takes.toReads removed).madeOf bears)⟩
  | next | jump => exact ⟨madeOf, forall_mem_some trivial⟩
  | @openIf word more takes =>
    have phrase : IsPhrase Word (" ".intercalate (word :: more)) :=
      ⟨word :: more, bears.words _ _ takes.toReads, rfl⟩
    have nonempty := intercalate_ne_empty (takes.toReads.words word (.head _)) more
    refine ⟨?_, forall_mem_some ⟨phrase, nonempty⟩⟩
    rintro _ ⟨⟩
    exact ⟨phrase, nonempty⟩
  | @openElse _ branch takes isOpen =>
    have made := madeOf branch isOpen
    refine ⟨?_, forall_mem_some made⟩
    intro branch' opened
    simp only [advance, beginElse, isOpen, Option.map_some, Option.some.injEq] at opened
    subst opened
    exact made
  | closeIf => exact ⟨by rintro _ ⟨⟩, forall_mem_some trivial⟩

/-! ## The last branch -/

/-- The open branch, if there is one, has this condition. -/
def Follows (ledger : Ledger) (condition : Option String) : Prop :=
  ∀ branch, ledger.branch = some branch → condition = some branch.condition

theorem Moves.paired (moves : Moves mode ledger token next entry) {later : List Entry}
    {condition : Option String} (fits : next.Fits (.ofEntries next.branch.isSome later))
    (follows : ledger.Follows condition)
    (others : ∀ condition, next.Follows condition →
      Paired condition (Growth.ofEntries next.branch.isSome later).shown) :
    Paired condition (Growth.ofEntries ledger.branch.isSome (entry.toList ++ later)).shown := by
  cases moves with
  | @title pending =>
    obtain ⟨heading, opening⟩ := pending
    cases heading with
    | ofBook => exact others condition follows
    | ofChapter id =>
      have noElements : (Growth.ofEntries ledger.branch.isSome later).elements = [] :=
        fits.elements rfl
      have shown := Growth.shown_newChapter ledger.branch.isSome id token.text later
      rw [noElements, List.nil_append] at shown
      show Paired condition
        (Growth.ofEntries ledger.branch.isSome (.newChapter id token.text :: later)).shown
      rw [← shown]
      exact others condition follows
    | ofSection id =>
      show Paired condition
        (Growth.ofEntries ledger.branch.isSome (.newSection id token.text :: later)).shown
      rw [Growth.shown_newSection]
      exact others condition follows
  | openBook | openChapter | openSection | next | jump => exact others condition follows
  | paragraph | state | addItem | removeItem =>
    exact Growth.paired_leaf _ (others condition follows)
  | openIf =>
    refine .ifBranch _ (others _ ?_)
    rintro _ ⟨⟩
    rfl
  | @openElse _ branch takes isOpen =>
    have opened : ledger.beginElse.advance.branch = some { branch with hasElse := true } := by
      simp [beginElse, advance, isOpen]
    have stillOpen : ledger.beginElse.advance.branch.isSome = true := by rw [opened]; rfl
    obtain rfl := follows branch isOpen
    rw [stillOpen] at others
    refine .elseBranch _ (others _ ?_)
    intro branch' same
    rw [opened] at same
    cases same
    rfl
  | closeIf =>
    refine others condition ?_
    rintro _ ⟨⟩

theorem run_paired (nested : ledger.Nested) {condition : Option String}
    (follows : ledger.Follows condition) (ran : run mode ledger tokens = .ok (last, entries)) :
    Paired condition (Growth.ofEntries ledger.branch.isSome entries).shown := by
  induction tokens generalizing ledger entries condition with
  | nil =>
    cases ran
    exact .nil condition
  | cons token rest ih =>
    obtain ⟨next, entry, later, moves, onward, rfl⟩ := run_cons_eq_ok_iff.mp ran
    have nextNested := moves.nested nested
    exact moves.paired (run_growth nextNested onward).1 follows
      fun _ nextFollows => ih nextNested nextFollows onward

end Ledger

variable {mode : Mode} {tokens : List Token} {book : Book}

/-- What is made of words in the tokens is made of words in the book. -/
theorem sound_of_bears (bears : ∀ token ∈ tokens, token.Bears Word Text)
    (parsed : (parse mode tokens).result = .ok book) : book.Sound Word Text := by
  have named := named_of_parse bears parsed
  rw [parse_eq_ledger_parse, Ledger.parse_eq_ok_iff] at parsed
  obtain ⟨last, entries, title, ran, -, -, -, rfl⟩ := parsed
  obtain ⟨fits, -⟩ := Ledger.run_growth initial_nested ran
  have elements := elements_bookOfEntries title (fits.elements rfl) (fits.sections rfl)
  have madeOf := (Ledger.run_forall Ledger.Moves.madeOf bears (nofun : Ledger.initial.MadeOf Word)
    ran).2
  have follows : Ledger.initial.Follows none := nofun
  have paired : Paired none (Growth.ofEntries false entries).shown :=
    Ledger.run_paired initial_nested follows ran
  rw [← elements] at paired
  refine ⟨named, ?_, ?_⟩
  · rw [elements]
    exact (Growth.madeOf_ofEntries madeOf false).shown
  · intro before condition body after split
    rw [split] at paired
    simpa using paired.last_eq

/-- A book that tokens give in either mode is sound. -/
theorem sound_of_parse (parsed : (parse mode tokens).result = .ok book) :
    book.Sound AnyWord AnyText :=
  sound_of_bears (fun token _ => token.bears_words) parsed

/-- Both alternatives of this book are in another section than their branch. -/
theorem sound_strewnBook :
    (parse .lenient strewnScript).result = .ok strewnBook ∧
      strewnBook.elements.map (·.name) = ["if", "else", "else", "state"] ∧
      strewnBook.Sound AnyWord AnyText := by
  exact ⟨parse_strewnScript, rfl, sound_of_parse parse_strewnScript⟩

end Gamebook.Script
