import Gamebook.Proofs.Addresses
import Gamebook.Proofs.Alternatives
import Gamebook.Proofs.Printout

/-!
# The tree shows every element once

The elements of a book have addresses, and the order of presentation is that of the addresses.
The tree has a line for each of them in this order, which shows by its indentation and its label
what is there (`Tree.forall₂_shows`).

The tally goes through the elements on its own.  What is added up over lines and over elements,
and is the same for each element and its line, is the same for the tree and the tally
(`Tree.Measures.ofElements`).  So the tally counts what the tree labels.

Narrative goes over several lines, and the tree shows its beginning with the line ends written
out.  No other text of an element has a newline if the book was parsed from a script
(`Book.unbroken_of_parse`).
-/

namespace Gamebook.Story

open Gamebook.Cli Gamebook.Script

/-! ## Texts on one line -/

/-- The texts of the leaf, if it is not narrative. -/
def Leaf.names : Leaf → List String
  | .paragraph _ => []
  | .state id modifier => [id, modifier]
  | .addItem id | .removeItem id => [id]

mutual

/-- The texts of the element and of what is in it, without narrative. -/
def Element.names : Element → List String
  | .leaf plain => plain.names
  | .branch _ condition body => condition :: Element.namesOf body

/-- The texts of elements at any depth, without narrative. -/
def Element.namesOf : List Element → List String
  | [] => []
  | element :: rest => element.names ++ Element.namesOf rest

end

/-- No text of the elements but narrative has a newline. -/
def Element.Unbroken (elements : List Element) : Prop :=
  ∀ text ∈ Element.namesOf elements, OneLine text

instance (elements : List Element) : Decidable (Element.Unbroken elements) :=
  inferInstanceAs (Decidable (∀ text ∈ Element.namesOf elements, OneLine text))

/-- No text of an element of the book but narrative has a newline. -/
def Book.Unbroken (book : Book) : Prop :=
  ∀ placed ∈ book.sections, Element.Unbroken placed.2.elements

theorem Element.namesOf_eq_flatMap (elements : List Element) :
    Element.namesOf elements = elements.flatMap Element.names := by
  induction elements with
  | nil => rfl
  | cons element rest ih => rw [Element.namesOf, ih, List.flatMap_cons]

/-- Elements are unbroken exactly when every text that is shown in full is on one line. -/
theorem Element.unbroken_iff {elements : List Element} :
    Element.Unbroken elements ↔ ∀ element ∈ elements, ∀ text ∈ element.names, OneLine text := by
  rw [Element.Unbroken, Element.namesOf_eq_flatMap, List.forall_mem_flatMap]

theorem Book.Unbroken.elements {book : Book} (unbroken : book.Unbroken) :
    Element.Unbroken book.elements := by
  rw [Element.unbroken_iff, Book.elements, List.forall_mem_flatMap]
  exact fun placed isPlaced => Element.unbroken_iff.mp (unbroken placed isPlaced)

section Parsed

variable {Text : String → Prop}

/-- The words of a leaf are on one line. -/
theorem Leaf.MadeOf.oneLine_names {leaf : Leaf} (madeOf : leaf.MadeOf LineWord Text) :
    ∀ text ∈ leaf.names, OneLine text := by
  cases leaf with
  | paragraph text => exact nofun
  | state id modifier =>
    exact List.forall_mem_cons.mpr ⟨madeOf.1.2, List.forall_mem_singleton.mpr madeOf.2.2⟩
  | addItem id => exact List.forall_mem_singleton.mpr madeOf.1.2
  | removeItem id => exact List.forall_mem_singleton.mpr (And.right madeOf)

theorem Element.MadeOf.oneLine_names {element : Element} (madeOf : element.MadeOf LineWord Text) :
    ∀ text ∈ element.names, OneLine text := by
  cases element with
  | leaf leaf => exact Leaf.MadeOf.oneLine_names madeOf
  | branch kind condition body =>
    obtain ⟨phrase, -, leaves⟩ := madeOf
    have inner : Element.Unbroken body := by
      refine Element.unbroken_iff.mpr fun element isInner => ?_
      obtain ⟨leaf, rfl, isMade⟩ := leaves element isInner
      exact isMade.oneLine_names
    exact List.forall_mem_cons.mpr ⟨newline_not_mem_of_isPhrase phrase, inner⟩

/-- A script is cut into lines before it is cut into words, so only narrative goes over several
lines. -/
theorem Book.unbroken_of_parse {mode : Mode} {marker : Marker} {script : String} {book : Book}
    (parsed : (parseText mode marker script).result = .ok book) : book.Unbroken := by
  have sound := sound_of_bears (fun _ isToken => bears_of_mem_tokens isToken) parsed
  intro placed isPlaced
  refine Element.unbroken_iff.mpr fun element isElement => ?_
  exact (sound.elements element (List.mem_flatMap.mpr ⟨placed, isPlaced, isElement⟩)).oneLine_names

end Parsed

/-! ## Pieces and their number -/

/-- The piece that the element is, apart from its body. -/
def Element.piece : Element → Piece
  | .leaf plain => plain.piece
  | .branch kind _ _ => kind.piece

/-- The number of elements of all kinds. -/
def ElementTally.total (tally : ElementTally) : Nat :=
  tally.paragraphs + tally.stateChanges + tally.itemsAdded + tally.itemsRemoved +
    tally.conditionals + tally.elseBranches

namespace ElementTally

/-- Totals are added up. -/
theorem total_add (first second : ElementTally) :
    (first + second).total = first.total + second.total := by
  show (add first second).total = _
  simp only [total, add]
  omega

theorem total_ofLeaf (leaf : Leaf) : (ofLeaf leaf).total = 1 := by
  cases leaf <;> rfl

theorem total_ofBranch (kind : BranchKind) : (ofBranch kind).total = 1 := by
  cases kind <;> rfl

end ElementTally

end Gamebook.Story

namespace Gamebook.Report

open Gamebook.Cli Gamebook.Script Gamebook.Story

/-- An excerpt is on one line: its newlines are written as two characters. -/
theorem oneLine_preview (text : String) : OneLine (preview text) := by
  have shown : '\n' ∉ (text.toList.take previewLength).flatMap
      fun c => if c = '\n' then ['\\', 'n'] else [c] := by
    intro inside
    obtain ⟨c, -, written⟩ := List.mem_flatMap.mp inside
    split at written
    · simp at written
    · rename_i other
      exact other (List.mem_singleton.mp written).symm
  rw [preview, oneLine_append]
  refine ⟨by rwa [OneLine, String.toList_ofList], ?_⟩
  split <;> decide

namespace Tree

/-! ## Lines of elements -/

/-- How the line of an element begins that is such a piece. -/
def label? : Piece → Option String
  | .ofText => some "Text: "
  | .ofState => some "State: "
  | .ofGain => some "Item: +"
  | .ofLoss => some "Item: -"
  | .ofIf => some "If: "
  | .ofElse => some "Else (of: "
  | .ofBook | .ofChapter | .ofSection | .ofLink => none

/-- The text begins like the line of such a piece. -/
inductive Labelled (piece : Piece) : String → Prop where
  /-- With its label. -/
  | text {label : String} (isLabel : label? piece = some label) (rest : String) :
      Labelled piece (label ++ rest)

/-- The line is that of the element at this address.  It begins with two spaces for each level
down to the element. -/
inductive Shows (level : Nat) (elements : List Element) (address : List Nat) : String → Prop where
  /-- The depth of the element is the number of branches around it. -/
  | line {depth : Nat} {element : Element} {text : String}
      (deep : address.length = depth + 1) (found : Element.at? elements address = some element)
      (labelled : Labelled element.piece text) :
      Shows level elements address (indent (level + depth) ++ text)

theorem labelled_ofLeaf (leaf : Leaf) : Labelled leaf.piece (ofLeaf leaf) := by
  cases leaf with
  | paragraph text => exact .text rfl _
  | state id modifier =>
    rw [ofLeaf, String.append_assoc, String.append_assoc]
    exact .text rfl _
  | addItem id | removeItem id => exact .text rfl _

/-- The line of a branch begins with the label of its kind. -/
theorem labelled_ofBranch (kind : BranchKind) (condition : String) :
    Labelled kind.piece (ofBranch kind condition) := by
  cases kind with
  | ifBranch => exact .text rfl _
  | elseBranch =>
    rw [ofBranch, String.append_assoc]
    exact .text rfl _

section

variable {level : Nat} {element : Element} {rest body : List Element} {address : List Nat}
  {line : String}

theorem shows_first {text : String} (rest : List Element) (labelled : Labelled element.piece text) :
    Shows level (element :: rest) [0] (indent level ++ text) :=
  @Shows.line level _ [0] 0 element text rfl rfl labelled

/-- A line that shows an element of the rest shows it behind one more element as well. -/
theorem Shows.behind (element : Element) (shows : Shows level rest address line) :
    Shows level (element :: rest) (Element.behind address) line := by
  cases shows with
  | line deep found labelled =>
    rw [← Element.at?_behind element] at found
    exact .line ((Element.length_behind address).trans deep) found labelled

/-- A line that shows an element of a body shows it inside of the branch, one level further in. -/
theorem Shows.inside (kind : BranchKind) (condition : String) (rest : List Element)
    (shows : Shows (level + 1) body address line) :
    Shows level (.branch kind condition body :: rest) (0 :: address) line := by
  cases shows with
  | @line depth inner text deep found labelled =>
    obtain ⟨index, others, rfl⟩ := List.exists_cons_of_length_eq_add_one deep
    rw [Nat.add_right_comm, Nat.add_assoc]
    exact .line (congrArg Nat.succ deep) found labelled

end

mutual

theorem forall₂_shows_ofElement (level : Nat) (rest : List Element) : ∀ element : Element,
    List.Forall₂ (Shows level (element :: rest))
      ([0] :: element.innerAddresses.map (0 :: ·)) (ofElement level element)
  | .leaf leaf => .cons (shows_first rest (labelled_ofLeaf leaf)) .nil
  | .branch kind condition body => by
    have inside := (forall₂_shows (level + 1) body).imp fun _ _ => Shows.inside kind condition rest
    exact .cons (shows_first rest (labelled_ofBranch kind condition))
      (List.forall₂_map_left_iff.mpr inside)

/-- There is one line for each address. -/
theorem forall₂_shows (level : Nat) : ∀ elements : List Element,
    List.Forall₂ (Shows level elements) (Element.addresses elements) (ofElements level elements)
  | [] => .nil
  | element :: rest => by
    have first := forall₂_shows_ofElement level rest element
    have later := (forall₂_shows level rest).imp fun _ _ => Shows.behind element
    exact List.rel_append first (List.forall₂_map_left_iff.mpr later)

end

/-! ## Lines by label -/

/-- The line begins with this label, behind its spaces. -/
def isLabelled (label : String) (line : String) : Bool :=
  label.toList.isPrefixOf (line.toList.dropWhile (· = ' '))

theorem dropWhile_label {piece : Piece} {label : String} (isLabel : label? piece = some label)
    (rest : List Char) :
    (label.toList ++ rest).dropWhile (· = ' ') = label.toList ++ rest := by
  cases piece <;> cases isLabel <;> simp

/-- No label is the beginning of another. -/
theorem eq_of_label_begins {piece piece' : Piece} {label label' : String}
    (isLabel : label? piece = some label) (isLabel' : label? piece' = some label')
    (begins : label.toList <+: label'.toList) : piece = piece' := by
  revert begins
  cases piece <;> cases isLabel <;> cases piece' <;> cases isLabel' <;> simp

/-- The label of a line tells what it shows, since no label begins another one. -/
theorem isLabelled_iff {piece piece' : Piece} {label text : String} (level : Nat)
    (isLabel : label? piece = some label) (labelled : Labelled piece' text) :
    isLabelled label (indent level ++ text) = true ↔ piece = piece' := by
  obtain ⟨isLabel', rest⟩ := labelled
  rename_i label'
  have spaces : ∀ c ∈ List.replicate (2 * level) ' ', decide (c = ' ') = true := by
    intro c isSpace
    exact decide_eq_true (List.eq_of_mem_replicate isSpace)
  rw [isLabelled, String.toList_append, indent, String.toList_ofList,
    List.dropWhile_append_of_pos spaces, String.toList_append, dropWhile_label isLabel',
    List.isPrefixOf_iff_prefix]
  constructor
  · intro begins
    rcases List.prefix_or_prefix_of_prefix begins (List.prefix_append _ _) with shorter | longer
    · exact eq_of_label_begins isLabel isLabel' shorter
    · exact (eq_of_label_begins isLabel' isLabel longer).symm
  · rintro rfl
    obtain rfl := Option.some.inj (isLabel.symm.trans isLabel')
    exact List.prefix_append _ _

/-- Something is added up over lines and over elements, and each element is worth as much as its
line. -/
structure Measures (ofLines : List String → Nat) (ofTally : ElementTally → Nat) : Prop where
  /-- It is added up over lines. -/
  append : ∀ lines others, ofLines (lines ++ others) = ofLines lines + ofLines others
  /-- It is added up over elements. -/
  add : ∀ tally other, ofTally (tally + other) = ofTally tally + ofTally other
  /-- Nothing is worth the same on both sides. -/
  none : ofLines [] = ofTally 0
  /-- A leaf is worth as much as its line. -/
  leaf : ∀ level leaf, ofLines [indent level ++ ofLeaf leaf] = ofTally (.ofLeaf leaf)
  /-- A branch without its body is worth as much as its line. -/
  branch : ∀ level kind condition,
    ofLines [indent level ++ ofBranch kind condition] = ofTally (.ofBranch kind)

section Measures

variable {ofLines : List String → Nat} {ofTally : ElementTally → Nat}

mutual

theorem Measures.ofElement (measures : Measures ofLines ofTally) (level : Nat) :
    ∀ element : Element,
      ofLines (Tree.ofElement level element) = ofTally (ElementTally.ofElement element)
  | .leaf leaf => measures.leaf level leaf
  | .branch kind condition body => by
    rw [Tree.ofElement, ElementTally.ofElement, ← List.singleton_append, measures.append,
      measures.add, measures.branch, measures.ofElements (level + 1) body]

/-- The lines of elements are worth as much as the elements. -/
theorem Measures.ofElements (measures : Measures ofLines ofTally) (level : Nat) :
    ∀ elements : List Element,
      ofLines (Tree.ofElements level elements) = ofTally (ElementTally.ofElements elements)
  | [] => measures.none
  | element :: rest => by
    rw [Tree.ofElements, ElementTally.ofElements, measures.append, measures.add,
      measures.ofElement level element, measures.ofElements level rest]

end

end Measures

/-- The lines with a label are counted like the elements that are such a piece. -/
theorem measures_countP {piece : Piece} {label : String} (isLabel : label? piece = some label) :
    Measures (·.countP (isLabelled label)) (·.count piece) where
  append _ _ := List.countP_append
  add tally other := ElementTally.count_add tally other piece
  none := (ElementTally.count_zero piece).symm
  leaf level leaf := by
    have here := isLabelled_iff level isLabel (labelled_ofLeaf leaf)
    rw [List.countP_singleton, ElementTally.count_ofLeaf, Multiset.count_singleton]
    simp only [here]
  branch level kind condition := by
    have here := isLabelled_iff level isLabel (labelled_ofBranch kind condition)
    rw [List.countP_singleton, ElementTally.count_ofBranch, Multiset.count_singleton]
    simp only [here]

/-- The lines are counted like the elements. -/
theorem measures_length : Measures List.length ElementTally.total where
  append _ _ := List.length_append
  add := ElementTally.total_add
  none := rfl
  leaf _ leaf := (ElementTally.total_ofLeaf leaf).symm
  branch _ kind _ := (ElementTally.total_ofBranch kind).symm

/-! ## Lines without a newline -/

theorem oneLine_indent (level : Nat) : OneLine (indent level) := by
  intro inside
  rw [indent, String.toList_ofList] at inside
  cases List.eq_of_mem_replicate inside

/-- The line of a leaf is one line if its words are. -/
theorem oneLine_ofLeaf {leaf : Leaf} (names : ∀ text ∈ leaf.names, OneLine text) :
    OneLine (ofLeaf leaf) := by
  cases leaf with
  | paragraph text => exact oneLine_append.mpr ⟨by decide, oneLine_preview text⟩
  | state id modifier =>
    obtain ⟨first, others⟩ := List.forall_mem_cons.mp names
    have second := List.forall_mem_singleton.mp others
    rw [ofLeaf]
    simp only [oneLine_append, first, second]
    decide
  | addItem id | removeItem id =>
    exact oneLine_append.mpr ⟨by decide, List.forall_mem_singleton.mp names⟩

theorem oneLine_ofBranch {condition : String} (kind : BranchKind) (oneLine : OneLine condition) :
    OneLine (ofBranch kind condition) := by
  cases kind with
  | ifBranch => exact oneLine_append.mpr ⟨by decide, oneLine⟩
  | elseBranch =>
    rw [ofBranch, oneLine_append, oneLine_append]
    exact ⟨⟨by decide, oneLine⟩, by decide⟩

mutual

theorem oneLine_of_mem_ofElement (level : Nat) : ∀ element : Element,
    (∀ text ∈ element.names, OneLine text) → ∀ line ∈ ofElement level element, OneLine line
  | .leaf leaf, names => by
    exact List.forall_mem_singleton.mpr
      (oneLine_append.mpr ⟨oneLine_indent level, oneLine_ofLeaf names⟩)
  | .branch kind condition body, names => by
    obtain ⟨own, inner⟩ := List.forall_mem_cons.mp names
    have first := oneLine_append.mpr ⟨oneLine_indent level, oneLine_ofBranch kind own⟩
    exact List.forall_mem_cons.mpr ⟨first, oneLine_of_mem_ofElements (level + 1) body inner⟩

theorem oneLine_of_mem_ofElements (level : Nat) : ∀ elements : List Element,
    Element.Unbroken elements → ∀ line ∈ ofElements level elements, OneLine line
  | [], _ => nofun
  | element :: rest, unbroken => by
    obtain ⟨own, later⟩ := List.forall_mem_append.mp unbroken
    exact List.forall_mem_append.mpr
      ⟨oneLine_of_mem_ofElement level element own, oneLine_of_mem_ofElements level rest later⟩

end

/-! ## Books -/

/-- The lines of the elements of all sections at this level. -/
def ofSections (level : Nat) (book : Book) : List String :=
  book.sections.flatMap fun (_, here) => ofElements level here.elements

/-- The lines are those of counted elements, kind by kind. -/
structure Tallied (lines : List String) (tally : ElementTally) : Prop where
  /-- There is a line for each element. -/
  total : lines.length = tally.total
  /-- It has the label of its kind. -/
  kinds : ∀ piece label, label? piece = some label →
    lines.countP (isLabelled label) = tally.count piece

theorem ofElements_append (level : Nat) (elements others : List Element) :
    ofElements level (elements ++ others) =
      ofElements level elements ++ ofElements level others := by
  induction elements with
  | nil => rfl
  | cons element rest ih => simp only [List.cons_append, ofElements, ih, List.append_assoc]

/-- Between sections, nothing is added to the lines of elements. -/
theorem ofSections_eq (level : Nat) (book : Book) :
    ofSections level book = ofElements level book.elements := by
  rw [ofSections, Book.elements]
  induction book.sections with
  | nil => rfl
  | cons placed rest ih => rw [List.flatMap_cons, List.flatMap_cons, ofElements_append, ih]

/-- What is printed of unbroken elements consists of their lines. -/
theorem consistsOf_ofElements {elements : List Element} (level : Nat)
    (unbroken : Element.Unbroken elements) :
    ConsistsOf (unlines (ofElements level elements)) (ofElements level elements) :=
  ⟨rfl, oneLine_of_mem_ofElements level elements unbroken⟩

/-- The lines of all sections, counted by their labels, give the tally of the book. -/
theorem tallied_ofSections (level : Nat) (book : Book) :
    Tallied (ofSections level book) book.tally.elements := by
  rw [ofSections_eq]
  exact ⟨measures_length.ofElements level book.elements,
    fun _ _ isLabel => (measures_countP isLabel).ofElements level book.elements⟩

/-- The tree shows elements of any depth on one line each, in the order of presentation.  Over the
sections of a book, that makes as many lines with each label as the tally has elements of the kind.
Only narrative may have newlines, and so it is in every book that was parsed from a script. -/
theorem shows_elements_once :
    (∀ level elements, Element.Unbroken elements →
      Element.Enumerates elements (Element.addresses elements) ∧
      List.Forall₂ (Shows level elements) (Element.addresses elements)
        (ofElements level elements) ∧
      ConsistsOf (unlines (ofElements level elements)) (ofElements level elements)) ∧
    (∀ level (book : Book), book.Unbroken →
      ConsistsOf (unlines (ofSections level book)) (ofSections level book) ∧
      Tallied (ofSections level book) book.tally.elements) ∧
    ∀ mode marker script book, (parseText mode marker script).result = .ok book →
      book.Unbroken := by
  refine ⟨?_, ?_, fun _ _ _ _ => Book.unbroken_of_parse⟩
  · intro level elements unbroken
    exact ⟨Element.enumerates_addresses elements, forall₂_shows level elements,
      consistsOf_ofElements level unbroken⟩
  · intro level book unbroken
    have consists := consistsOf_ofElements level unbroken.elements
    rw [← ofSections_eq] at consists
    exact ⟨consists, tallied_ofSections level book⟩

/-- Elements of three levels.  The text is longer than what is shown of it, and it has line ends
in the middle and at the cut. -/
def nestedElements : List Element :=
  [.branch .ifBranch "lit" [
    .branch .elseBranch "has\tlamp" [
      .leaf (.paragraph "The lamp goes out.\nYou stand in the dark and hear a stream.\n\nIt rises.")],
    .leaf (.removeItem "lamp")],
  .leaf (.state "door" "open")]

/-- A script with a branch and an alternative. -/
def forkScript : String :=
  "@book\nT\n@chapter c\nC\nD\n@section s\nS\n@if x\nOne\ntwo\n@else\n@item remove a\n@endif"

/-- The book of that script. -/
def forkBook : Book :=
  ⟨"T", [⟨"c", "C\nD", [⟨"s", "S", [.branch .ifBranch "x" [.leaf (.paragraph "One\ntwo")],
    .branch .elseBranch "x" [.leaf (.removeItem "a")]], []⟩]⟩]⟩

theorem shows_nestedElements :
    ofElements 1 nestedElements = ["  If: lit", "    Else (of: has\tlamp)",
      "      Text: The lamp goes out.\\nYou stand in the dark and hear a stream.\\n...",
      "    Item: -lamp", "  State: door open"] ∧
    Element.Enumerates nestedElements [[0], [0, 0], [0, 0, 0], [0, 1], [1]] ∧
    List.Forall₂ (Shows 1 nestedElements) [[0], [0, 0], [0, 0, 0], [0, 1], [1]]
      (ofElements 1 nestedElements) ∧
    ConsistsOf (unlines (ofElements 1 nestedElements)) (ofElements 1 nestedElements) ∧
    ConsistsOf "    If: x\n      Text: One\\ntwo\n    Else (of: x)\n      Item: -a\n"
      (ofSections 2 forkBook) ∧
    Tallied (ofSections 2 forkBook) ⟨1, 0, 0, 1, 1, 1⟩ := by
  obtain ⟨ofNested, ofBooks, ofScripts⟩ := shows_elements_once
  have listed : Element.addresses nestedElements = [[0], [0, 0], [0, 0, 0], [0, 1], [1]] := by
    decide
  obtain ⟨enumerates, shows, consists⟩ := ofNested 1 nestedElements (by decide)
  rw [listed] at enumerates shows
  have parsed : (parseText .strict (.ofString "@") forkScript).result = .ok forkBook := by
    decide +kernel
  obtain ⟨bookConsists, tallied⟩ := ofBooks 2 forkBook (ofScripts _ _ _ _ parsed)
  have printed : unlines (ofSections 2 forkBook) =
      "    If: x\n      Text: One\\ntwo\n    Else (of: x)\n      Item: -a\n" := by decide +kernel
  rw [printed] at bookConsists
  exact ⟨by decide +kernel, enumerates, shows, consists, bookConsists, tallied⟩

end Tree

end Gamebook.Report
