import Gamebook.Cli
import Gamebook.Proofs.Reading

/-!
# Reading books back

The JSON of a book is read back by its shape.  What an element is follows from the
type in its first field.  Reading is exact at every level: a value is read as a
book exactly when it is the record of that book (`Record.toBook?_eq_some_iff`).

With the reader of JSON texts, a text is read as a book exactly when it is JSON for the
record of that book (`readBook?_eq_some_iff`).  What `parse` prints as JSON is such a
text, so that it has all of the book.
-/

namespace Gamebook.Report.Record

open Gamebook.Story

/-- The leaf that the value is the record of. -/
def toLeaf? : Json → Option Leaf
  | .obj [("type", .str "paragraph"), ("text", .str text)] => some (.paragraph text)
  | .obj [("type", .str "state"), ("id", .str id), ("modifier", .str modifier)] =>
    some (.state id modifier)
  | .obj [("type", .str "addItem"), ("id", .str id)] => some (.addItem id)
  | .obj [("type", .str "removeItem"), ("id", .str id)] => some (.removeItem id)
  | _ => none

mutual

/-- The element that the value is the record of. -/
def toElement? : Json → Option Element
  | .obj [("type", .str "if"), ("condition", .str condition), ("elements", .arr body)] =>
    (toElements? body).map (.branch .ifBranch condition)
  | .obj [("type", .str "else"), ("ifCondition", .str condition), ("elements", .arr body)] =>
    (toElements? body).map (.branch .elseBranch condition)
  | value => (toLeaf? value).map .leaf

/-- The elements that the values are the records of. -/
def toElements? : List Json → Option (List Element)
  | [] => some []
  | value :: rest => do
    let element ← toElement? value
    let elements ← toElements? rest
    return element :: elements

end

theorem toLeaf?_eq_some_iff {value : Json} {leaf : Leaf} :
    toLeaf? value = some leaf ↔ value = ofLeaf leaf := by
  constructor
  · intro read
    unfold toLeaf? at read
    split at read <;> cases read <;> rfl
  · rintro rfl
    cases leaf <;> rfl

mutual

/-- An element is read back from its record. -/
theorem toElement?_ofElement : ∀ element : Element, toElement? (ofElement element) = some element
  | .leaf (.paragraph _) | .leaf (.state _ _) | .leaf (.addItem _) | .leaf (.removeItem _) => by rfl
  | .branch .ifBranch condition body | .branch .elseBranch condition body => by
    simp only [ofElement, branchType, conditionKey, toElement?, toElements?_ofElements body,
      Option.map_some]

theorem toElements?_ofElements : ∀ elements : List Element,
    toElements? (ofElements elements) = some elements
  | [] => by rfl
  | element :: rest => by
    rw [ofElements, toElements?, toElement?_ofElement element, toElements?_ofElements rest]
    rfl

end

/-- What is read as an element is the record of that element. -/
theorem of_toElement? {value : Json} {element : Element} :
    toElement? value = some element → value = ofElement element := by
  -- The induction is on the reading, which goes from a branch to the list of its body and back.
  refine @toElement?.induct
    (fun value => ∀ {element}, toElement? value = some element → value = ofElement element)
    (fun values => ∀ {elements}, toElements? values = some elements → values = ofElements elements)
    ?ifBranch ?elseBranch ?leaf ?nil ?cons value element
  case ifBranch | elseBranch =>
    intro condition body ih element read
    obtain ⟨elements, found, rfl⟩ := Option.map_eq_some_iff.mp read
    rw [ih found]
    rfl
  case leaf =>
    intro value noIf noElse element read
    rw [toElement?.eq_3 value noIf noElse] at read
    obtain ⟨leaf, found, rfl⟩ := Option.map_eq_some_iff.mp read
    exact toLeaf?_eq_some_iff.mp found
  case nil =>
    intro elements read
    cases read
    rfl
  case cons =>
    intro value rest ihValue ihRest elements read
    obtain ⟨element, found, more⟩ := Option.bind_eq_some_iff.mp read
    obtain ⟨elements, foundRest, made⟩ := Option.bind_eq_some_iff.mp more
    cases made
    rw [ihValue found, ihRest foundRest]
    rfl

/-- An element is read from its record. -/
theorem toElement?_eq_some_iff {value : Json} {element : Element} :
    toElement? value = some element ↔ value = ofElement element :=
  ⟨of_toElement?, by rintro rfl; exact toElement?_ofElement element⟩

/-! ## The levels of a book -/

/-- Values that are read one by one. -/
theorem mapM_eq_some_iff {α : Type} {read : Json → Option α} {write : α → Json}
    (agrees : ∀ {value : Json} {made : α}, read value = some made ↔ value = write made)
    {values : List Json} {made : List α} :
    values.mapM read = some made ↔ values = made.map write := by
  induction values generalizing made with
  | nil => simp [eq_comm]
  | cons value rest ih =>
    cases made <;> simp [Option.bind_eq_some_iff, agrees, ih]

theorem toElements?_eq_mapM (values : List Json) : toElements? values = values.mapM toElement? := by
  induction values with
  | nil => rfl
  | cons value rest ih => rw [toElements?, ih, List.mapM_cons]

theorem ofElements_eq_map (elements : List Element) :
    ofElements elements = elements.map ofElement := by
  induction elements with
  | nil => rfl
  | cons element rest ih => rw [ofElements, ih, List.map_cons]

/-- The link that the value is the record of. -/
def toLink? : Json → Option Link
  | .obj [("title", .str title), ("chapterId", .str chapterId), ("sectionId", .str sectionId)] =>
    some ⟨title, chapterId, sectionId⟩
  | _ => none

/-- The section that the value is the record of. -/
def toSection? : Json → Option Section
  | .obj [("id", .str id), ("title", .str title), ("elements", .arr elements),
      ("next", .arr links)] => do
    let elements ← toElements? elements
    let links ← links.mapM toLink?
    return ⟨id, title, elements, links⟩
  | _ => none

/-- The chapter that the value is the record of. -/
def toChapter? : Json → Option Chapter
  | .obj [("id", .str id), ("title", .str title), ("sections", .arr sections)] =>
    (sections.mapM toSection?).map (⟨id, title, ·⟩)
  | _ => none

/-- The book that the value is the record of. -/
def toBook? : Json → Option Book
  | .obj [("title", .str title), ("chapters", .arr chapters)] =>
    (chapters.mapM toChapter?).map (⟨title, ·⟩)
  | _ => none

theorem toLink?_eq_some_iff {value : Json} {link : Link} :
    toLink? value = some link ↔ value = ofLink link := by
  constructor
  · intro read
    unfold toLink? at read
    split at read <;> cases read
    rfl
  · rintro rfl
    rfl

/-- Sections and their records determine one another. -/
theorem toSection?_eq_some_iff {value : Json} {here : Section} :
    toSection? value = some here ↔ value = ofSection here := by
  constructor
  · intro read
    unfold toSection? at read
    split at read
    · simp only [Option.bind_eq_bind, Option.bind_eq_some_iff, toElements?_eq_mapM,
        mapM_eq_some_iff toElement?_eq_some_iff, mapM_eq_some_iff toLink?_eq_some_iff] at read
      obtain ⟨elements, rfl, links, rfl, made⟩ := read
      cases made
      rw [ofSection, ofElements_eq_map]
    · cases read
  · rintro rfl
    have links := (mapM_eq_some_iff toLink?_eq_some_iff).mpr (rfl : here.links.map ofLink = _)
    simp only [toSection?, ofSection, toElements?_ofElements, links]
    rfl

theorem toChapter?_eq_some_iff {value : Json} {chapter : Chapter} :
    toChapter? value = some chapter ↔ value = ofChapter chapter := by
  constructor
  · intro read
    unfold toChapter? at read
    split at read
    · obtain ⟨sections, found, rfl⟩ := Option.map_eq_some_iff.mp read
      rw [(mapM_eq_some_iff toSection?_eq_some_iff).mp found, ofChapter]
    · cases read
  · rintro rfl
    have sections := (mapM_eq_some_iff toSection?_eq_some_iff).mpr
      (rfl : chapter.sections.map ofSection = _)
    simp only [toChapter?, ofChapter, sections, Option.map_some]

/-- A book is read from its record and from nothing else. -/
theorem toBook?_eq_some_iff {value : Json} {book : Book} :
    toBook? value = some book ↔ value = ofBook book := by
  constructor
  · intro read
    unfold toBook? at read
    split at read
    · obtain ⟨chapters, found, rfl⟩ := Option.map_eq_some_iff.mp read
      rw [(mapM_eq_some_iff toChapter?_eq_some_iff).mp found, ofBook]
    · cases read
  · rintro rfl
    have chapters := (mapM_eq_some_iff toChapter?_eq_some_iff).mpr
      (rfl : book.chapters.map ofChapter = _)
    simp only [toBook?, ofBook, chapters, Option.map_some]

/-! ## Printed books -/

/-- The book that the text is JSON for. -/
def readBook? (text : String) : Option Book := (Json.read? text).bind toBook?

/-- A book is read from the JSON texts of its record and from nothing else. -/
theorem readBook?_eq_some_iff {text : String} {book : Book} :
    readBook? text = some book ↔ (ofBook book).Writes text := by
  simp only [readBook?, Option.bind_eq_some_iff, Json.read?_eq_some_iff, toBook?_eq_some_iff,
    exists_eq_right]

example : readBook? " \x7b\"title\" :\"\\u0054\\/\" , \"chapters\":[ ]\x7d" = some ⟨"T/", []⟩ := by
  decide +kernel

/-- The text that `parse` prints for the book as JSON. -/
def printed (options : Cli.Options) (book : Book) : String :=
  Cli.unlines (Cli.showBook { options with json := true } book)

theorem writes_printed (options : Cli.Options) (book : Book) :
    (ofBook book).Writes (printed options book) := by
  have line : printed options book = Json.pretty (ofBook book) ++ "\n" := by
    simp [printed, Cli.unlines, Cli.showBook, String.join]
  rw [line]
  exact Json.writes_pretty_line (ofBook book)

/-- What a command prints of a book is read back as the book. -/
theorem readBook?_printed (options : Cli.Options) (book : Book) :
    readBook? (printed options book) = some book :=
  readBook?_eq_some_iff.mpr (writes_printed options book)

/-- What is printed for a book is JSON that has all of the book.  It can be read back, and so
different books are printed differently. -/
theorem printed_lossless (options : Cli.Options) :
    (∀ book, (ofBook book).Writes (printed options book)) ∧
      (∀ book, readBook? (printed options book) = some book) ∧
      Function.Injective (printed options) := by
  refine ⟨writes_printed options, readBook?_printed options, ?_⟩
  intro first second same
  have read := readBook?_printed options first
  rw [same, readBook?_printed options second] at read
  exact (Option.some.inj read).symm

end Gamebook.Report.Record
