import Gamebook.Proofs.Alternatives
import Gamebook.Proofs.Printout
import Gamebook.Proofs.Rejections
import Gamebook.Proofs.Spellings
import Gamebook.Proofs.Stops

/-!
# Diagnostics are lines

Titles and narrative go over several lines, but no message does.  A message quotes words of
one directive, and a script is cut into lines before it is cut into words.  What a failure
quotes of earlier directives is what the ledger has of them: ids, and the condition of the
open branch (`Ledger.Quotable`).  Every move keeps them on one line.  So every failure is told on
one line, with its line number and its scope (`oneLine_display`).

The commands add to this no more than one line end for each failure and each warning
(`diagnostics_by_line`).
-/

namespace Gamebook.Script

open Gamebook.Cli Gamebook.Story

/-! ## What a ledger quotes -/

namespace Ledger

variable {Word Text : String → Prop} {mode : Mode} {ledger next : Ledger} {token : Token}
  {entry : Option Entry} {cause : Cause}

/-- What the ledger has of earlier directives is made of such words. -/
structure Quotable (Word : String → Prop) (ledger : Ledger) : Prop extends ledger.Named Word where
  /-- The id of the current section is a word. -/
  sectionId : ∀ id, ledger.sectionId = some id → Word id
  /-- The condition of the open branch is a phrase. -/
  branch : ledger.MadeOf Word

theorem Moves.quotable (moves : Moves mode ledger token next entry) (bears : token.Bears Word Text)
    (quotable : ledger.Quotable Word) : next.Quotable Word := by
  have named := (moves.named bears quotable.toNamed).1
  have branch := (moves.madeOf bears quotable.branch).1
  refine ⟨named, ?_, branch⟩
  cases moves with
  | @title pending waiting =>
    have isNamed := quotable.pending pending waiting
    obtain ⟨heading, opening⟩ := pending
    cases heading with
    | ofBook => exact quotable.sectionId
    | ofChapter id => exact nofun
    | ofSection id =>
      rintro _ ⟨⟩
      exact isNamed
  | _ => exact quotable.sectionId

theorem initial_quotable : initial.Quotable Word := ⟨⟨nofun, nofun⟩, nofun, nofun⟩

end Ledger

/-! ## Messages -/

@[simp] theorem oneLine_quoted {text : String} : OneLine (quoted text) ↔ OneLine text := by
  have mark : OneLine "\"" := by decide
  simp [quoted, mark]

theorem oneLine_phrase {text : String} (phrase : IsPhrase LineWord text) : OneLine text :=
  newline_not_mem_of_isPhrase phrase

theorem Keyword.oneLine_spelling (keyword : Keyword) : OneLine keyword.spelling :=
  keyword.lineWord_spelling.2

/-- The texts that the message of the cause has from elsewhere. -/
def Cause.quotes : Cause → List String
  | .beforeBook what => [what]
  | .outOfOrder what antecedent => [what, antecedent]
  | .unknownDirective name => [name]
  | .missingArgument command argument => [command, argument]
  | .secondElse condition | .openAtHeading _ condition | .neverClosed condition => [condition]
  | .custom _ message => [message]
  | .emptyInput | .missingBook | .duplicateBook | .missingTitle _ | .nestedIf | .strayElse
  | .strayEndif => []

/-- A message is on one line if what it quotes is. -/
theorem Cause.oneLine_message {cause : Cause} (quotes : ∀ text ∈ cause.quotes, OneLine text) :
    OneLine cause.message := by
  unfold message
  cases cause with
  | emptyInput | missingBook | duplicateBook | nestedIf | strayElse | strayEndif => decide
  | beforeBook what =>
    have inside := quotes what (by simp [Cause.quotes])
    simp only [oneLine_append, inside]
    decide
  | outOfOrder what antecedent =>
    have inside := quotes what (by simp [Cause.quotes])
    have needed := quotes antecedent (by simp [Cause.quotes])
    simp only [oneLine_append, oneLine_quoted, inside, needed]
    decide
  | unknownDirective name =>
    have inside := quotes name (by simp [Cause.quotes])
    dsimp only
    split
    · decide
    · simp only [oneLine_append, oneLine_quoted, inside]
      decide
  | missingArgument command argument =>
    have inside := quotes command (by simp [Cause.quotes])
    have lacking := quotes argument (by simp [Cause.quotes])
    simp only [oneLine_append, oneLine_quoted, inside, lacking]
    decide
  | missingTitle heading =>
    simp only [oneLine_append, oneLine_quoted, heading.oneLine_spelling]
    decide
  | secondElse condition | neverClosed condition =>
    have inside := quotes condition (by simp [Cause.quotes])
    simp only [oneLine_append, oneLine_quoted, inside]
    decide
  | openAtHeading heading condition =>
    have inside := quotes condition (by simp [Cause.quotes])
    simp only [oneLine_append, oneLine_quoted, inside, heading.oneLine_spelling]
    decide
  | custom kind message => exact quotes message List.mem_cons_self

/-- What is said to be missing does not depend on the script. -/
theorem Keyword.oneLine_lacking {keyword : Keyword} {fields : List String} {argument : String}
    (lacking : keyword.lacking? fields = some argument) : OneLine argument := by
  unfold lacking? at lacking
  split at lacking
  case h_9 =>
    split at lacking
    · cases lacking
      decide
    · cases lacking
  all_goals cases lacking
  all_goals decide

/-- The name of a directive is on one line if the directive is. -/
theorem oneLine_name {token : Token} (oneLine : OneLine token.text) :
    OneLine token.reading.name := by
  intro inside
  rw [Token.reading, Directive.name_ofText, String.toList_ofList] at inside
  have inWord := Text.mem_of_mem_lower (by decide) inside
  cases split : Text.words token.text.toList with
  | nil =>
    rw [split] at inWord
    cases inWord
  | cons word others =>
    rw [split, List.headD_cons] at inWord
    have isMember : word ∈ Text.words token.text.toList := by rw [split]; exact List.mem_cons_self
    exact oneLine (Text.mem_of_mem_words isMember inWord)

/-- A token is rejected in words of its own and of the ledger. -/
theorem Ledger.Rejects.oneLine_quotes {mode : Mode} {ledger : Ledger} {token : Token}
    {cause : Cause} (rejects : Rejects mode ledger token cause)
    (oneLine : token.kind = .directive → OneLine token.text)
    (quotable : ledger.Quotable LineWord) : ∀ text ∈ cause.quotes, OneLine text := by
  have condition {branch : OpenBranch} (isOpen : ledger.branch = some branch) :
      OneLine branch.condition := oneLine_phrase (quotable.branch branch isOpen).1
  cases rejects with
  | unknown isDirective =>
    exact List.forall_mem_singleton.mpr (oneLine_name (oneLine isDirective))
  | @beforeBook keyword =>
    exact List.forall_mem_singleton.mpr (oneLine_quoted.mpr keyword.oneLine_spelling)
  | textBeforeBook => exact List.forall_mem_singleton.mpr (by decide)
  | textOutside =>
    have needed := Keyword.openSection.oneLine_spelling
    exact List.forall_mem_cons.mpr ⟨by decide, List.forall_mem_singleton.mpr needed⟩
  | @misplaced keyword antecedent =>
    have spelling := oneLine_quoted.mpr keyword.oneLine_spelling
    have needed := antecedent.oneLine_spelling
    exact List.forall_mem_cons.mpr ⟨spelling, List.forall_mem_singleton.mpr needed⟩
  | @missingArgument keyword fields argument reads admits lacking =>
    have argument := Keyword.oneLine_lacking lacking
    exact List.forall_mem_cons.mpr
      ⟨keyword.oneLine_spelling, List.forall_mem_singleton.mpr argument⟩
  | openAtHeading reads strict isOpen | secondElse reads strict isOpen =>
    exact List.forall_mem_singleton.mpr (condition isOpen)
  | secondBook | nestedIf | strayElse | strayEndif => exact nofun

/-! ## Failures -/

theorem Scope.oneLine_display {scope : Scope} (chapterId : ∀ id ∈ scope.chapterId, OneLine id)
    (sectionId : ∀ id ∈ scope.sectionId, OneLine id)
    (condition : ∀ text ∈ scope.condition, OneLine text) : OneLine scope.display := by
  refine oneLine_intercalate (by decide) fun part isPart => ?_
  simp only [parts, List.mem_append, Option.mem_toList, Option.map_eq_some_iff] at isPart
  rcases isPart with (⟨id, isId, rfl⟩ | ⟨id, isId, rfl⟩) | ⟨text, isText, rfl⟩
  · simp only [oneLine_append, chapterId id isId]
    decide
  · simp only [oneLine_append, sectionId id isId]
    decide
  · simp only [oneLine_append, condition text isText]
    decide

theorem Ledger.Quotable.oneLine_scope {ledger : Ledger} (quotable : ledger.Quotable LineWord) :
    OneLine ledger.scope.display := by
  refine Scope.oneLine_display ?_ ?_ ?_
  · exact fun id isId => (quotable.chapterId id isId).2
  · exact fun id isId => (quotable.sectionId id isId).2
  · intro text isText
    obtain ⟨branch, isOpen, rfl⟩ := Option.map_eq_some_iff.mp isText
    exact oneLine_phrase (quotable.branch branch isOpen).1

/-- The line number adds no line end. -/
theorem ParseError.oneLine_display {error : ParseError} (message : OneLine error.message)
    (scope : OneLine error.scope.display) : OneLine error.display := by
  unfold display
  rw [oneLine_append, oneLine_append]
  refine ⟨⟨?_, message⟩, ?_⟩
  · split
    · decide
    · simp only [oneLine_append, oneLine_repr]
      decide
  · split
    · decide
    · simp only [oneLine_append, scope]
      decide

section Scripts

variable {mode : Mode} {marker : Marker} {tokens : List Token}

theorem quotable_of_run {ledger : Ledger} {entries : List Entry}
    (normal : ∀ token ∈ tokens, token.passage.Normal marker)
    (ran : Ledger.run mode .initial tokens = .ok (ledger, entries)) : ledger.Quotable LineWord := by
  have keeps {ledger next : Ledger} {token : Token} {entry : Option Entry}
      (moves : Ledger.Moves mode ledger token next entry)
      (isNormal : token.passage.Normal marker) (quotable : ledger.Quotable LineWord) :
      next.Quotable LineWord ∧ ∀ made ∈ entry, True :=
    ⟨moves.quotable (Token.bears_of_normal isNormal) quotable, fun _ _ => trivial⟩
  exact (Ledger.run_forall keeps normal Ledger.initial_quotable ran).1

/-- Wherever a parse stops, what it quotes is on one line. -/
theorem Stops.oneLine_quotes {failure : Failure} (stops : Stops mode tokens failure)
    (normal : ∀ token ∈ tokens, token.passage.Normal marker) :
    ∀ text ∈ failure.error.cause.quotes, OneLine text := by
  cases stops with
  | empty | untitled | titleless => exact nofun
  | @violation before ledger entries token cause after ran ready stopped =>
    obtain ⟨earlier, later⟩ := List.forall_mem_append.mp normal
    obtain ⟨own, -⟩ := List.forall_mem_cons.mp later
    refine (Ledger.rejects_of_step ready stopped).oneLine_quotes ?_ (quotable_of_run earlier ran)
    intro isDirective
    obtain ⟨kind, text, line⟩ := token
    cases isDirective
    exact own.2
  | unclosed strict ran ready isOpen =>
    have quotable := quotable_of_run normal ran
    exact List.forall_mem_singleton.mpr (oneLine_phrase (quotable.branch _ isOpen).1)

/-- A failure to parse a script is told on one line. -/
theorem oneLine_display {script : String} {error : ParseError}
    (failed : (parseText mode marker script).result = .error error) : OneLine error.display := by
  have normal := normal_of_mem_tokens marker script
  have stops := stops_of_parse failed
  refine ParseError.oneLine_display (Cause.oneLine_message (stops.oneLine_quotes normal)) ?_
  obtain ⟨seen, rest, ledger, entries, whole, ran, -, scope⟩ := stops.exists_read
  rw [whole] at normal
  rw [scope]
  exact (quotable_of_run (List.forall_mem_append.mp normal).1 ran).oneLine_scope

end Scripts

end Gamebook.Script

namespace Gamebook.Cli

open Gamebook.Report Gamebook.Script Gamebook.Story

variable {content : Except ReadFault ByteArray} {lenient : Bool} {marker : Marker}

/-! ## What the commands say -/

/-- The commands tell of the error in whole lines. -/
structure RejectsByLine (outputs : Outputs) (error : ParseError) : Prop where
  /-- The error is told on one line. -/
  display : OneLine error.display
  /-- `parse` and `stats` print it on one line. -/
  plain : ∀ command json verbose, command ≠ .validate →
    ConsistsOf (outputs command json verbose).stderr ["error: " ++ error.display]
  /-- `validate` prints it on one of two lines. -/
  validate : ∀ verbose, ConsistsOf (outputs .validate false verbose).stderr
    ["Invalid: " ++ error.display, "error: 1 error found"]

/-- `validate` tells of the book in whole lines. -/
structure AcceptsByLine (outputs : Outputs) (book : Book) : Prop where
  /-- There is one line for each dangling link, in order. -/
  warnings : ∀ verbose, ConsistsOf (outputs .validate false verbose).stderr
    (book.danglingLinks.map fun placed => "warning: " ++ Verdict.describe placed)
  /-- There is one line to say that there is a book. -/
  summary : ∀ verbose, ConsistsOf (outputs .validate false verbose).stdout
    ["Valid: no errors found, " ++ book.danglingLinks.length.repr ++ " warning(s)"]

theorem rejectsByLine_outputs (path : String) {error : ParseError}
    (yields : Yields lenient marker content (.error error)) :
    RejectsByLine (outputs path content lenient marker) error := by
  obtain ⟨script, failed, -⟩ := yields.exists_outputs path
  have rejects := rejects_outputs path yields
  have display := oneLine_display failed
  refine ⟨display, ?_, ?_⟩
  · intro command json verbose other
    have line : OneLine ("error: " ++ error.display) := oneLine_append.mpr ⟨by decide, display⟩
    rw [rejects.plain command json verbose other]
    exact ⟨(unlines_singleton _).symm, List.forall_mem_singleton.mpr line⟩
  · intro verbose
    have line : OneLine ("Invalid: " ++ error.display) := oneLine_append.mpr ⟨by decide, display⟩
    have last : OneLine "error: 1 error found" := by decide
    rw [rejects.validate verbose]
    refine ⟨?_, List.forall_mem_cons.mpr ⟨line, List.forall_mem_singleton.mpr last⟩⟩
    rw [unlines_cons, unlines_singleton]
    rfl

theorem acceptsByLine_outputs (path : String) {book : Book}
    (yields : Yields lenient marker content (.ok book)) :
    AcceptsByLine (outputs path content lenient marker) book := by
  obtain ⟨script, parsed, -⟩ := yields.exists_outputs path
  have accepts := accepts_outputs path yields
  refine ⟨?_, ?_⟩
  · intro verbose
    refine ⟨accepts.warnings verbose, List.forall_mem_map.mpr fun placed isDangling => ?_⟩
    have described := newline_not_mem_describe parsed placed (List.mem_of_mem_filter isDangling)
    exact oneLine_append.mpr ⟨by decide, described⟩
  · intro verbose
    rw [accepts.validate verbose]
    refine ⟨?_, List.forall_mem_singleton.mpr ?_⟩
    · rw [unlines_singleton]
      simp only [String.append_assoc]
      rfl
    · simp only [oneLine_append, oneLine_repr]
      decide

/-- Whatever the commands say of a script, they say it line by line. -/
theorem diagnostics_by_line (path : String) (content : Except ReadFault ByteArray)
    (lenient : Bool) (marker : Marker) :
    (∀ error, Yields lenient marker content (.error error) →
      RejectsByLine (outputs path content lenient marker) error) ∧
    ∀ book, Yields lenient marker content (.ok book) →
      AcceptsByLine (outputs path content lenient marker) book :=
  ⟨fun _ => rejectsByLine_outputs path, fun _ => acceptsByLine_outputs path⟩

/-- A script with titles of two lines, and a branch that is open at the second chapter. -/
def openBranch : String :=
  "@book\nA tale\nin two lines\n@chapter c\nC\nD\n@section s\nS\n@IF has\tlamp\n@chapter d"

/-- Why there is no book in it. -/
def openBranchError : ParseError :=
  ⟨.openAtHeading .openChapter "has\tlamp", some (.directive "chapter d" 10),
    ⟨some "c", some "s", some "has\tlamp"⟩⟩

theorem diagnostics_of_openBranch :
    RejectsByLine (outputs "tale" (.ok openBranch.toUTF8) false (.ofString "@"))
      openBranchError ∧
    ∃ book, book.danglingLinks.map Verdict.describe =
        ["link \"a\t\"b\" in c/s points to missing section c/x\\"] ∧
      AcceptsByLine (outputs "tale" (.ok quotedLink.toUTF8) false (.ofString "@")) book := by
  have rejected := yields_toUTF8 false (.ofString "@") openBranch
  have accepted := yields_toUTF8 false (.ofString "@") quotedLink
  have failed : (parse .strict (tokens (.ofString "@") openBranch)).result =
      .error openBranchError := by decide +kernel
  have parsed : (parse .strict (tokens (.ofString "@") quotedLink)).result =
      .ok ⟨"T", [⟨"c", "C", [⟨"s", "S", [], [⟨"a\t\"b", "c", "x\\"⟩]⟩]⟩]⟩ := by decide +kernel
  rw [if_neg Bool.false_ne_true, failed] at rejected
  rw [if_neg Bool.false_ne_true, parsed] at accepted
  refine ⟨(diagnostics_by_line "tale" _ false _).1 _ rejected, _, ?_,
    (diagnostics_by_line "tale" _ false _).2 _ accepted⟩
  decide +kernel

end Gamebook.Cli
