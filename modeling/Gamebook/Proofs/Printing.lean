import Gamebook.Proofs.Cursors
import Gamebook.Proofs.Rendering

/-!
# Printing a script

A book is printed as the passages of its rendering.  A directive is a line with
the marker, a space and the text.  A paragraph is its lines and a blank line.

A passage is *normal* if a script can have it: the text of a directive is a
trimmed line, and a paragraph is text lines.  Normal passages are read back as
they were printed (`passages_of_printed`), and a script has no others
(`normal_of_mem_tokens`).  The book of a script is made of words and texts of
its tokens, so its passages are normal too (`normal_of_mem_render`).  Therefore
a book that was parsed can be printed and parsed again.
-/

namespace Gamebook.Script

open Gamebook.Story
open Gamebook.Text

/-! ## Printing -/

/-- The lines of the passage. -/
def Passage.print (marker : Marker) (passage : Passage) : List Char :=
  match passage.kind with
  | .directive => marker.chars ++ ' ' :: passage.text.toList ++ ['\n']
  | .paragraph => passage.text.toList ++ ['\n', '\n']

/-- The script of the passages. -/
def printPassages (marker : Marker) (passages : List Passage) : List Char :=
  passages.flatMap (·.print marker)

/-- The script of the book. -/
def printBook (marker : Marker) (book : Book) : String :=
  String.ofList (printPassages marker (render book))

/-- Text lines with a newline between each two. -/
def IsTextBlock (marker : Marker) (text : String) : Prop :=
  ∃ lines, lines ≠ [] ∧ (∀ line ∈ lines, IsTextLine marker line) ∧
    text.toList = ['\n'].intercalate lines

/-- A script can have the passage. -/
def Passage.Normal (marker : Marker) (passage : Passage) : Prop :=
  match passage.kind with
  | .directive => trim passage.text.toList = passage.text.toList ∧ '\n' ∉ passage.text.toList
  | .paragraph => IsTextBlock marker passage.text

/-! ## Reading what was printed -/

section Reading

variable {marker : Marker}

theorem IsTextLine.dropReturn_eq {line : List Char} (isText : IsTextLine marker line) :
    LineReader.dropReturn line = line :=
  LineReader.dropReturn_of_trimmed (trim_eq_self_iff.mp isText.trimmed).2

/-- Text lines and a blank line end the paragraph under collection. -/
theorem scan_textLines {lines : List (List Char)} (areText : ∀ line ∈ lines, IsTextLine marker line)
    (draft : Draft) (rest : List Char) (number : Nat) :
    scan marker (some draft)
        (LineReader.lines ⟨lines.flatMap (· ++ ['\n']) ++ '\n' :: rest, number⟩) =
      Draft.token ⟨draft.line, lines.reverse ++ draft.lines⟩ ::
        scan marker none (LineReader.lines ⟨rest, number + lines.length + 1⟩) := by
  induction lines generalizing draft number with
  | nil =>
    have blank : LineReader.lines ⟨[] ++ '\n' :: rest, number⟩ =
        ⟨[], number⟩ :: LineReader.lines ⟨rest, number + 1⟩ :=
      LineReader.lines_append (by simp) rest number
    rw [List.flatMap_nil, blank]
    rfl
  | cons line lines ih =>
    have isText := areText line (.head _)
    have shape : (line :: lines).flatMap (· ++ ['\n']) ++ '\n' :: rest =
        line ++ '\n' :: (lines.flatMap (· ++ ['\n']) ++ '\n' :: rest) := by simp
    rw [shape, LineReader.lines_append isText.closed, isText.dropReturn_eq, scan]
    simp only [Marker.role_of_isTextLine isText]
    rw [ih (fun other inside => areText other (.tail _ inside))]
    simp only [Draft.extend, List.reverse_cons, List.append_assoc, List.singleton_append,
      List.length_cons, Nat.add_assoc, Nat.add_comm 1]

theorem intercalate_append_newline {first : List Char} {others : List (List Char)} :
    ['\n'].intercalate (first :: others) ++ ['\n'] = (first :: others).flatMap (· ++ ['\n']) := by
  induction others generalizing first with
  | nil => simp
  | cons second others ih =>
    rw [List.intercalate_cons_cons, List.append_assoc, ih]
    simp

/-- The line of a directive does not end with a carriage return. -/
theorem dropReturn_directive {text : List Char} (trimmed : trim text = text) :
    LineReader.dropReturn (marker.chars ++ ' ' :: text) = marker.chars ++ ' ' :: text := by
  rw [LineReader.dropReturn, if_neg]
  intro atEnd
  rw [List.getLast?_append] at atEnd
  cases text with
  | nil => cases atEnd
  | cons c rest =>
    rw [List.getLast?_cons_cons, List.getLast?_eq_some_getLast (List.cons_ne_nil c rest),
      Option.some_or, ← List.getLast?_eq_some_getLast (List.cons_ne_nil c rest)] at atEnd
    have unblank := trimEnd_eq_self_iff.mp (trim_eq_self_iff.mp trimmed).2 '\r' atEnd
    revert unblank
    decide

/-- A passage that was printed is read back. -/
theorem scan_print {passage : Passage} (normal : passage.Normal marker)
    (begins : ∀ c, marker.chars.head? = some c → isBlank c = false)
    (closed : '\n' ∉ marker.chars) (rest : List Char) (number : Nat) :
    ∃ token later, token.passage = passage ∧
      scan marker none (LineReader.lines ⟨passage.print marker ++ rest, number⟩) =
        token :: scan marker none (LineReader.lines ⟨rest, later⟩) := by
  obtain ⟨kind, text⟩ := passage
  cases kind with
  | directive =>
    obtain ⟨trimmed, oneLine⟩ := normal
    have shape : Passage.print marker ⟨.directive, text⟩ ++ rest =
        (marker.chars ++ ' ' :: text.toList) ++ '\n' :: rest := by simp [Passage.print]
    have lineClosed : '\n' ∉ marker.chars ++ ' ' :: text.toList := by
      simpa using ⟨closed, oneLine⟩
    refine ⟨.directive (String.ofList text.toList) number, number + 1, ?_, ?_⟩
    · rw [String.ofList_toList]
      rfl
    · rw [shape, LineReader.lines_append lineClosed, dropReturn_directive trimmed, scan]
      simp only [Marker.role_append begins trimmed]
      rfl
  | paragraph =>
    obtain ⟨lines, nonempty, areText, text_eq⟩ := normal
    obtain ⟨first, others, rfl⟩ := List.exists_cons_of_ne_nil nonempty
    have isText := areText first (.head _)
    have shape : Passage.print marker ⟨.paragraph, text⟩ ++ rest =
        first ++ '\n' :: (others.flatMap (· ++ ['\n']) ++ '\n' :: rest) := by
      have terminated : Passage.print marker ⟨.paragraph, text⟩ =
          (['\n'].intercalate (first :: others) ++ ['\n']) ++ ['\n'] := by
        simp [Passage.print, ← text_eq]
      rw [terminated, intercalate_append_newline]
      simp
    refine ⟨Draft.token ⟨number, others.reverse ++ [first]⟩, number + 1 + others.length + 1, ?_, ?_⟩
    · simp [Draft.token, Token.passage, Token.paragraph, ← text_eq]
    · rw [shape, LineReader.lines_append isText.closed, isText.dropReturn_eq, scan]
      simp only [Marker.role_of_isTextLine isText]
      exact scan_textLines (fun line inside => areText line (.tail _ inside)) _ rest _

/-- Normal passages are read back as they were printed. -/
theorem passages_of_printed {passages : List Passage}
    (normal : ∀ passage ∈ passages, passage.Normal marker)
    (begins : ∀ c, marker.chars.head? = some c → isBlank c = false)
    (closed : '\n' ∉ marker.chars) :
    (tokens marker (String.ofList (printPassages marker passages))).map Token.passage =
      passages := by
  rw [tokens_eq_scan_lines, LineReader.ofString, String.toList_ofList]
  generalize 1 = number
  induction passages generalizing number with
  | nil =>
    have noLines : LineReader.lines ⟨printPassages marker [], number⟩ = [] :=
      LineReader.lines_nil number
    rw [noLines]
    rfl
  | cons passage passages ih =>
    obtain ⟨token, later, same, scanned⟩ := scan_print (normal passage (.head _)) begins closed
      (printPassages marker passages) number
    have shape : printPassages marker (passage :: passages) =
        passage.print marker ++ printPassages marker passages := List.flatMap_cons
    rw [shape, scanned, List.map_cons, same,
      ih (fun other inside => normal other (.tail _ inside)) later]

end Reading

/-! ## What a script has -/

section Scanning

variable {marker : Marker}

/-- The paragraph under collection has text lines. -/
def Draft.Normal (marker : Marker) (draft : Draft) : Prop :=
  draft.lines ≠ [] ∧ ∀ line ∈ draft.lines, IsTextLine marker line

/-- A draft stays normal when a text line is added. -/
theorem Draft.Normal.extend {draft : Option Draft}
    (normal : ∀ old, draft = some old → old.Normal marker) {content : List Char}
    (isText : IsTextLine marker content) (number : Nat) :
    (Draft.extend draft number content).Normal marker := by
  cases draft with
  | none => exact ⟨List.cons_ne_nil _ _, by simpa [Draft.extend] using isText⟩
  | some old =>
    exact ⟨List.cons_ne_nil _ _, List.forall_mem_cons.mpr ⟨isText, (normal old rfl).2⟩⟩

theorem Draft.Normal.close {draft : Option Draft}
    (normal : ∀ old, draft = some old → old.Normal marker) :
    ∀ token ∈ Draft.close draft, token.passage.Normal marker := by
  cases draft with
  | none => simp [Draft.close]
  | some old =>
    obtain ⟨nonempty, areText⟩ := normal old rfl
    have block : old.token.passage.Normal marker :=
      ⟨old.lines.reverse, by simpa using nonempty, by simpa using areText, String.toList_ofList⟩
    simpa [Draft.close] using block

/-- A scan makes normal tokens only, by induction on the lines with the draft along. -/
theorem normal_of_mem_scan {lines : List Line} {draft : Option Draft}
    (closed : ∀ line ∈ lines, '\n' ∉ line.text)
    (normal : ∀ old, draft = some old → old.Normal marker) :
    ∀ token ∈ scan marker draft lines, token.passage.Normal marker := by
  induction lines generalizing draft with
  | nil => exact Draft.Normal.close normal
  | cons line lines ih =>
    obtain ⟨here, later⟩ := List.forall_mem_cons.mp closed
    have fresh : ∀ token ∈ scan marker none lines, token.passage.Normal marker := ih later nofun
    cases role : marker.role line.text with
    | blank =>
      simp only [scan, role]
      exact List.forall_mem_append.mpr ⟨Draft.Normal.close normal, fresh⟩
    | directive payload =>
      obtain ⟨trimmed, sub⟩ := Marker.of_role_directive role
      have own : (Token.directive (String.ofList payload) line.number).passage.Normal marker := by
        show trim (String.ofList payload).toList = (String.ofList payload).toList ∧
          '\n' ∉ (String.ofList payload).toList
        rw [String.toList_ofList]
        exact ⟨trimmed, fun inside => here (sub _ inside)⟩
      simp only [scan, role]
      exact List.forall_mem_append.mpr
        ⟨Draft.Normal.close normal, List.forall_mem_cons.mpr ⟨own, fresh⟩⟩
    | text content =>
      simp only [scan, role]
      refine ih later ?_
      intro old same
      obtain rfl := Option.some.inj same
      exact Draft.Normal.extend normal (Marker.isTextLine_of_role here role) line.number

/-- Every token of a script is normal. -/
theorem normal_of_mem_tokens (marker : Marker) (script : String) :
    ∀ token ∈ tokens marker script, token.passage.Normal marker := by
  rw [tokens_eq_scan_lines]
  exact normal_of_mem_scan (LineReader.newline_not_mem _) nofun

end Scanning

/-! ## What a book of a script prints -/

/-- A word on a line. -/
def LineWord (text : String) : Prop := AnyWord text ∧ '\n' ∉ text.toList

section Normal

variable {marker : Marker}

theorem Token.bears_of_normal {token : Token} (normal : token.passage.Normal marker) :
    token.Bears LineWord (IsTextBlock marker) := by
  obtain ⟨kind, text, line⟩ := token
  cases kind with
  | directive =>
    refine ⟨?_, nofun⟩
    intro keyword fields reads field isField
    refine ⟨reads.words field isField, ?_⟩
    intro inside
    rw [← reads.fields_eq] at isField
    exact normal.2 (mem_of_mem_words (Directive.mem_words isField) inside)
  | paragraph => exact ⟨fun _ _ reads => (nomatch reads.isDirective), fun _ => normal⟩

/-- The words of a directive that was scanned are on its line. -/
theorem bears_of_mem_tokens {script : String} {token : Token}
    (isToken : token ∈ tokens marker script) : token.Bears LineWord (IsTextBlock marker) :=
  Token.bears_of_normal (normal_of_mem_tokens marker script token isToken)

theorem Keyword.lineWord_spelling (keyword : Keyword) : LineWord keyword.spelling :=
  ⟨keyword.anyWord_spelling, by cases keyword <;> decide⟩

theorem Passage.command_normal {keyword : Keyword} {fields : List String}
    (areWords : ∀ field ∈ fields, LineWord field) : (command keyword fields).Normal marker := by
  have onLine : ∀ field ∈ keyword.spelling :: fields, LineWord field :=
    List.forall_mem_cons.mpr ⟨keyword.lineWord_spelling, areWords⟩
  have chars : (" ".intercalate (keyword.spelling :: fields)).toList =
      joinWords ((keyword.spelling :: fields).map String.toList) := String.toList_intercalate
  show trim (" ".intercalate (keyword.spelling :: fields)).toList =
      (" ".intercalate (keyword.spelling :: fields)).toList ∧
    '\n' ∉ (" ".intercalate (keyword.spelling :: fields)).toList
  rw [chars]
  constructor
  · refine (trim_intercalate ?_ ?_).1
    · exact List.forall_mem_map.mpr fun field isMember => (onLine field isMember).1.ne_nil
    · exact List.forall_mem_map.mpr fun field isMember => (onLine field isMember).1.trimmed
  · intro inside
    rcases mem_joinWords inside with isSpace | ⟨word, isMember, inWord⟩
    · revert isSpace
      decide
    · obtain ⟨field, isField, rfl⟩ := List.mem_map.mp isMember
      exact (onLine field isField).2 inWord

theorem Passage.ofLeaf_normal {leaf : Leaf} (madeOf : leaf.MadeOf LineWord (IsTextBlock marker)) :
    (ofLeaf leaf).Normal marker := by
  cases leaf with
  | paragraph text => exact madeOf
  | state id modifier =>
    obtain ⟨isId, isModifier⟩ := madeOf
    exact command_normal (by simpa using ⟨isId, isModifier⟩)
  | addItem id => exact command_normal (by simpa using madeOf.1)
  | removeItem id =>
    have isId : LineWord id := madeOf
    have remove : LineWord "remove" := ⟨by decide, by decide⟩
    exact command_normal (by simpa using ⟨remove, isId⟩)

theorem Passage.ofLink_normal {link : Link} (madeOf : link.MadeOf LineWord) :
    (ofLink link).Normal marker := by
  obtain ⟨ws, areWords, -, rendered⟩ := exists_ofLink_eq madeOf
  rw [rendered]
  exact command_normal areWords

/-- An element is written as normal passages, branch by branch. -/
theorem normal_of_mem_renderElement {element : Element}
    (madeOf : element.MadeOf LineWord (IsTextBlock marker)) :
    ∀ passage ∈ renderElement element, passage.Normal marker := by
  cases element with
  | leaf leaf =>
    have normal := Passage.ofLeaf_normal madeOf
    simpa [renderElement] using normal
  | branch kind condition body =>
    obtain ⟨phrase, nonempty, areLeaves⟩ := madeOf
    obtain ⟨leaves, rfl, areMadeOf⟩ := leaves_of_body areLeaves
    have inner : ∀ passage ∈ renderElements (leaves.map .leaf), passage.Normal marker := by
      rw [renderElements_leaves]
      exact List.forall_mem_map.mpr fun leaf isMember =>
        Passage.ofLeaf_normal (areMadeOf leaf isMember)
    cases kind with
    | ifBranch =>
      obtain ⟨word, more, areWords, rfl⟩ := exists_words_of_phrase phrase nonempty
      have opening : (Passage.command .openIf [" ".intercalate (word :: more)]).Normal marker := by
        have same := Passage.command_phrase .openIf [] word more
        rw [List.nil_append, List.nil_append] at same
        rw [same]
        exact Passage.command_normal areWords
      exact List.forall_mem_cons.mpr ⟨opening, inner⟩
    | elseBranch =>
      have turning : (Passage.command .openElse []).Normal marker :=
        Passage.command_normal (by simp)
      exact List.forall_mem_cons.mpr ⟨turning, inner⟩

theorem normal_of_mem_renderEnd (element : Element) (rest : List Element) :
    ∀ passage ∈ renderEnd element rest, passage.Normal marker := by
  have closing : (Passage.command .closeIf []).Normal marker := Passage.command_normal (by simp)
  unfold renderEnd
  split <;> simp [closing]

theorem normal_of_mem_renderElements {elements : List Element}
    (areMadeOf : ∀ element ∈ elements, element.MadeOf LineWord (IsTextBlock marker)) :
    ∀ passage ∈ renderElements elements, passage.Normal marker := by
  induction elements with
  | nil => simp [renderElements]
  | cons element rest ih =>
    obtain ⟨madeOf, others⟩ := List.forall_mem_cons.mp areMadeOf
    rw [renderElements]
    exact List.forall_mem_append.mpr ⟨List.forall_mem_append.mpr
      ⟨normal_of_mem_renderElement madeOf, normal_of_mem_renderEnd element rest⟩, ih others⟩

theorem normal_of_mem_renderSection {here : Section}
    (madeOf : here.MadeOf LineWord (IsTextBlock marker)) :
    ∀ passage ∈ renderSection here, passage.Normal marker := by
  have opening : (Passage.command .openSection [here.id]).Normal marker :=
    Passage.command_normal (by simpa using madeOf.id)
  have title : (Passage.paragraph here.title).Normal marker := madeOf.title
  refine List.forall_mem_cons.mpr ⟨opening, List.forall_mem_cons.mpr ⟨title, ?_⟩⟩
  refine List.forall_mem_append.mpr ⟨normal_of_mem_renderElements madeOf.elements, ?_⟩
  exact List.forall_mem_map.mpr fun link isMember =>
    Passage.ofLink_normal (madeOf.links link isMember)

theorem normal_of_mem_renderChapter {chapter : Chapter}
    (madeOf : chapter.MadeOf LineWord (IsTextBlock marker)) :
    ∀ passage ∈ renderChapter chapter, passage.Normal marker := by
  have opening : (Passage.command .openChapter [chapter.id]).Normal marker :=
    Passage.command_normal (by simpa using madeOf.id)
  have title : (Passage.paragraph chapter.title).Normal marker := madeOf.title
  refine List.forall_mem_cons.mpr ⟨opening, List.forall_mem_cons.mpr ⟨title, ?_⟩⟩
  refine List.forall_mem_flatMap.mpr ?_
  intro here isMember
  exact normal_of_mem_renderSection (madeOf.sections here isMember)

/-- A book that is made of lines and text blocks is written as normal passages. -/
theorem normal_of_mem_render {book : Book} (madeOf : book.MadeOf LineWord (IsTextBlock marker)) :
    ∀ passage ∈ render book, passage.Normal marker := by
  have opening : (Passage.command .openBook []).Normal marker := Passage.command_normal (by simp)
  have title : (Passage.paragraph book.title).Normal marker := madeOf.title
  refine List.forall_mem_cons.mpr ⟨opening, List.forall_mem_cons.mpr ⟨title, ?_⟩⟩
  refine List.forall_mem_flatMap.mpr ?_
  intro chapter isMember
  exact normal_of_mem_renderChapter (madeOf.chapters chapter isMember)

end Normal

/-! ## The round trip -/

/-- A book that was parsed from a script is parsed again from the script that it
prints, with the same marker. -/
theorem parseText_printBook (marker : Marker) (script : String) (book : Book)
    (begins : ∀ c, marker.chars.head? = some c → isBlank c = false)
    (closed : '\n' ∉ marker.chars)
    (parsed : (parseText .strict marker script).result = .ok book) :
    (parseText .strict marker (printBook marker book)).result = .ok book := by
  have derives : DerivesBook (tokens marker script) book := .of_parse parsed
  have madeOf : book.MadeOf LineWord (IsTextBlock marker) :=
    derives.madeOf fun token inside =>
      Token.bears_of_normal (normal_of_mem_tokens marker script token inside)
  have same := passages_of_printed (normal_of_mem_render madeOf) begins closed
  exact (DerivesBook.of_passages derives.wellFormed same).parse_eq

/-- A marker that ends with a space, and a title of two lines. -/
theorem parseText_printBook_two_lines :
    ∃ marker script book, marker.chars = ['#', ' '] ∧
      script = "# book\n  One \ntwo\n\n# chapter c\nC" ∧
      (parseText .strict marker script).result = .ok book ∧
      (parseText .strict marker (printBook marker book)).result = .ok book := by
  have scanned : tokens ⟨['#', ' '], by decide⟩ "# book\n  One \ntwo\n\n# chapter c\nC" =
      [.directive "book" 1, .paragraph "One\ntwo" 2, .directive "chapter c" 5,
        .paragraph "C" 6] := by
    decide +kernel
  have parsed : (parseText .strict ⟨['#', ' '], by decide⟩
      "# book\n  One \ntwo\n\n# chapter c\nC").result =
      .ok ⟨"One\ntwo", [⟨"c", "C", []⟩]⟩ := by
    rw [parseText, scanned]
    rfl
  refine ⟨_, _, _, rfl, rfl, parsed, ?_⟩
  exact parseText_printBook _ _ _ (by rintro c ⟨⟩; decide) (by decide) parsed

end Gamebook.Script
