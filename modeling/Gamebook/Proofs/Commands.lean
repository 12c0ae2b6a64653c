import Gamebook.Cli
import Gamebook.Proofs.Reading
import Gamebook.Proofs.Segments
import Gamebook.Proofs.Warnings

/-!
# The commands agree

The three commands work on what the library makes of a file: no text, an error or a
book.  With that given, the status of a command is the same for all commands and
flags, and what they print tells the same.

* Without a text, all of them print one line (`Unread`).
* With an error, `parse` and `stats` print it, and `validate` prints it in words or
  as JSON (`Rejects`).
* With a book, all of them succeed, and whatever counts its dangling links comes to
  one number (`Accepts`).

`commands_agree` has the three together.  The JSON output is read with the reader of
JSON texts, so that nothing is said about its layout.
-/

namespace Gamebook.Cli

open Gamebook.Report Gamebook.Script Gamebook.Story

/-! ## Lines of output -/

theorem unlines_nil : unlines [] = "" := rfl

theorem unlines_cons (line : String) (lines : List String) :
    unlines (line :: lines) = line ++ "\n" ++ unlines lines := String.join_cons

theorem unlines_singleton (line : String) : unlines [line] = line ++ "\n" := by
  rw [unlines_cons, unlines_nil, String.append_empty]

/-- Lines without a newline in them are found again. -/
theorem lineTexts_unlines {lines : List String} (closed : ∀ line ∈ lines, '\n' ∉ line.toList) :
    lineTexts (unlines lines).toList = lines.map String.toList := by
  induction lines with
  | nil => rfl
  | cons line rest ih =>
    obtain ⟨here, later⟩ := List.forall_mem_cons.mp closed
    rw [unlines_cons, String.toList_append, String.toList_append, List.append_assoc]
    exact (lineTexts_append here _).trans (congrArg _ (ih later))

/-! ## What is made of a file -/

/-- There is no text in the file, for this reason. -/
inductive Unreadable : Except ReadFault ByteArray → ReadFault → Prop where
  /-- The file could not be read. -/
  | refused (fault : ReadFault) : Unreadable (.error fault) fault
  /-- The file is not UTF-8. -/
  | notUtf8 {bytes : ByteArray} (invalid : String.fromUTF8? bytes = none) :
      Unreadable (.ok bytes) .notUtf8

/-- The file is text, and parsing its tokens has this result. -/
inductive Yields (lenient : Bool) (marker : Marker) :
    Except ReadFault ByteArray → Except ParseError Book → Prop where
  /-- The script is that of the file. -/
  | script {bytes : ByteArray} {script : String} (valid : String.fromUTF8? bytes = some script) :
      Yields lenient marker (.ok bytes)
        (parse (if lenient then .lenient else .strict) (tokens marker script)).result

variable {content : Except ReadFault ByteArray} {lenient : Bool} {marker : Marker}

/-- There is no text, or there is a result. -/
theorem unreadable_or_yields (content : Except ReadFault ByteArray) (lenient : Bool)
    (marker : Marker) :
    (∃ fault, Unreadable content fault) ∨ ∃ result, Yields lenient marker content result := by
  cases content with
  | error fault => exact .inl ⟨fault, .refused fault⟩
  | ok bytes =>
    cases valid : String.fromUTF8? bytes with
    | none => exact .inl ⟨_, .notUtf8 valid⟩
    | some script => exact .inr ⟨_, .script valid⟩

theorem decode_of_unreadable {fault : ReadFault} (unreadable : Unreadable content fault) :
    decode content = .error fault := by
  cases unreadable with
  | refused => rfl
  | notUtf8 invalid => simp only [decode, invalid]

theorem Yields.exists_script {result : Except ParseError Book}
    (yields : Yields lenient marker content result) :
    ∃ script, decode content = .ok script ∧
      (parseText (if lenient then .lenient else .strict) marker script).result = result := by
  cases yields with
  | @script bytes script valid => exact ⟨script, by simp only [decode, valid], rfl⟩

/-! ## What the commands print -/

/-- What a command leaves, with JSON or not and with the whole tree or not. -/
abbrev Outputs : Type := Command → (json verbose : Bool) → Output

/-- What the commands leave for a file. -/
def outputs (path : String) (content : Except ReadFault ByteArray) (lenient : Bool)
    (marker : Marker) : Outputs :=
  fun command json verbose => run command ⟨json, verbose, lenient, marker⟩ path content

/-- All commands print the reason why there is no text, in one line. -/
structure Unread (outputs : Outputs) (path : String) (fault : ReadFault) : Prop where
  /-- All outputs are the same. -/
  output : ∀ command json verbose, outputs command json verbose =
    ⟨1, "", "error: failed to read '" ++ path ++ "': " ++ fault.message ++ "\n"⟩
  /-- The line has no newline but those of the path and the reason. -/
  single : ∀ command json verbose, (outputs command json verbose).stderr.toList.count '\n' =
    path.toList.count '\n' + fault.message.toList.count '\n' + 1

/-- All commands tell of the error. -/
structure Rejects (outputs : Outputs) (error : ParseError) : Prop where
  /-- `parse` and `stats` print it. -/
  plain : ∀ command json verbose, command ≠ .validate →
    outputs command json verbose = ⟨1, "", "error: " ++ error.display ++ "\n"⟩
  /-- `validate` prints it and that it is the only one. -/
  validate : ∀ verbose, outputs .validate false verbose =
    ⟨1, "", "Invalid: " ++ error.display ++ "\n" ++ "error: 1 error found\n"⟩
  /-- `validate` has it in the JSON, if that is asked for. -/
  validateJson : ∀ verbose, (outputs .validate true verbose).exitStatus = 1 ∧
    (outputs .validate true verbose).stderr = "error: 1 error found\n" ∧
    Json.read? (outputs .validate true verbose).stdout = some (.obj [
      ("errors", .arr [Verdict.errorRecord error]),
      ("valid", .bool false),
      ("warnings", .arr [])])

/-- All commands succeed on the book, and they agree on the number of its dangling links. -/
structure Accepts (outputs : Outputs) (book : Book) : Prop where
  /-- All commands succeed. -/
  status : ∀ command json verbose, (outputs command json verbose).exitStatus = 0
  /-- `validate` prints the number. -/
  validate : ∀ verbose, (outputs .validate false verbose).stdout =
    "Valid: no errors found, " ++ book.danglingLinks.length.repr ++ " warning(s)\n"
  /-- `validate` prints a warning for each of the links. -/
  warnings : ∀ verbose, (outputs .validate false verbose).stderr =
    unlines (book.danglingLinks.map ("warning: " ++ Verdict.describe ·))
  /-- The warnings are that many lines. -/
  warningLines : ∀ verbose,
    (lineTexts (outputs .validate false verbose).stderr.toList).countP
      ("warning: ".toList.isPrefixOf ·) = book.danglingLinks.length
  /-- `validate` has that many warnings in the JSON, if that is asked for, and prints no others. -/
  validateJson : ∀ verbose, ∃ warnings : List Json, warnings.length = book.danglingLinks.length ∧
    (outputs .validate true verbose).stderr = "" ∧
    Json.read? (outputs .validate true verbose).stdout = some (.obj [
      ("errors", .arr []),
      ("valid", .bool true),
      ("warnings", .arr warnings)])
  /-- `stats` has the number in its table, behind six other lines. -/
  stats : ∀ verbose, ∃ before behind : List String, before.length = 6 ∧
    (outputs .stats false verbose).stdout =
      unlines (before ++ ("  Dangling:   " ++ book.danglingLinks.length.repr) :: behind)
  /-- `stats` has the number in the JSON, if that is asked for. -/
  statsJson : ∀ verbose, ∃ counts : Json,
    Json.read? (outputs .stats true verbose).stdout = some counts ∧
    counts.field? "dangling_links" = some (.num book.danglingLinks.length)

theorem unread_outputs (path : String) {fault : ReadFault} (unreadable : Unreadable content fault) :
    Unread (outputs path content lenient marker) path fault := by
  have output (command : Command) (json verbose : Bool) :
      outputs path content lenient marker command json verbose =
        ⟨1, "", "error: failed to read '" ++ path ++ "': " ++ fault.message ++ "\n"⟩ := by
    simp only [outputs, run, decode_of_unreadable unreadable, Output.failure, List.nil_append,
      unlines_nil, unlines_singleton, String.append_assoc]
    rfl
  refine ⟨output, fun command json verbose => ?_⟩
  have opening : "error: failed to read '".toList.count '\n' = 0 := by decide
  have middle : "': ".toList.count '\n' = 0 := by decide
  simp only [output, String.toList_append, List.count_append, opening, middle]
  simp

/-- A command on a file with a text works on the text. -/
theorem Yields.exists_outputs {result : Except ParseError Book} (path : String)
    (yields : Yields lenient marker content result) : ∃ script,
      (parseText (if lenient then .lenient else .strict) marker script).result = result ∧
      ∀ command json verbose, outputs path content lenient marker command json verbose =
        runText command ⟨json, verbose, lenient, marker⟩ script := by
  obtain ⟨script, decoded, parsed⟩ := yields.exists_script
  exact ⟨script, parsed, fun command json verbose => by simp only [outputs, run, decoded]⟩

/-- Where a file has an error, no command gets to a book, and each leaves the error. -/
theorem rejects_outputs (path : String) {error : ParseError}
    (yields : Yields lenient marker content (.error error)) :
    Rejects (outputs path content lenient marker) error := by
  obtain ⟨script, parsed, output⟩ := yields.exists_outputs path
  constructor
  case plain =>
    intro command json verbose other
    rw [output]
    cases command with
    | validate => exact absurd rfl other
    | parse | stats =>
      simp only [runText, Options.mode, parsed, Output.failure, List.nil_append, unlines_nil,
        unlines_singleton]
  case validate =>
    intro verbose
    have ran : runText .validate ⟨false, verbose, lenient, marker⟩ script =
        .failure [] ["Invalid: " ++ error.display] "1 error found" := by
      simp only [runText, Options.mode, parsed]
      rfl
    simp only [output, ran, Output.failure, List.singleton_append, unlines_cons, unlines_nil,
      String.append_empty]
    rfl
  case validateJson =>
    intro verbose
    have ran : runText .validate ⟨true, verbose, lenient, marker⟩ script =
        .failure [Json.compact (Verdict.record (.invalid error))] [] "1 error found" := by
      simp only [runText, Options.mode, parsed]
      rfl
    rw [output, ran, Output.failure, unlines_singleton]
    exact ⟨rfl, rfl, Json.read?_eq_some_iff.mpr (Json.writes_compact_line _)⟩

/-- The line of a table with the number of dangling links is the seventh. -/
theorem table_split (title : String) (tally : Tally) : ∃ before behind : List String,
    before.length = 6 ∧ Counts.table title tally =
      before ++ ("  Dangling:   " ++ tally.danglingLinks.repr) :: behind :=
  ⟨(Counts.table title tally).take 6, (Counts.table title tally).drop 7, rfl, rfl⟩

/-- Warnings without newlines are as many lines that begin like warnings. -/
theorem countP_warnings {links : List PlacedLink}
    (described : ∀ placed ∈ links, '\n' ∉ (Verdict.describe placed).toList) :
    (lineTexts (unlines (links.map ("warning: " ++ Verdict.describe ·))).toList).countP
      ("warning: ".toList.isPrefixOf ·) = links.length := by
  have closed : ∀ line ∈ links.map ("warning: " ++ Verdict.describe ·), '\n' ∉ line.toList := by
    refine List.forall_mem_map.mpr fun placed isPlaced => ?_
    simpa using described placed isPlaced
  have begin : ∀ line ∈ (links.map ("warning: " ++ Verdict.describe ·)).map String.toList,
      "warning: ".toList.isPrefixOf line = true := by
    refine List.forall_mem_map.mpr (List.forall_mem_map.mpr fun placed _ => ?_)
    rw [List.isPrefixOf_iff_prefix, String.toList_append]
    exact List.prefix_append _ _
  rw [lineTexts_unlines closed, List.countP_eq_length.mpr begin, List.length_map, List.length_map]

/-- Where a file has a book, each command is run on the text, and what it leaves is read off. -/
theorem accepts_outputs (path : String) {book : Book}
    (yields : Yields lenient marker content (.ok book)) :
    Accepts (outputs path content lenient marker) book := by
  obtain ⟨script, parsed, output⟩ := yields.exists_outputs path
  have validated (verbose : Bool) : runText .validate ⟨false, verbose, lenient, marker⟩ script =
      .success ["Valid: no errors found, " ++ book.danglingLinks.length.repr ++ " warning(s)"]
        (book.danglingLinks.map ("warning: " ++ Verdict.describe ·)) := by
    simp only [runText, Options.mode, parsed]
    rfl
  have warnings (verbose : Bool) :
      (outputs path content lenient marker .validate false verbose).stderr =
        unlines (book.danglingLinks.map ("warning: " ++ Verdict.describe ·)) := by
    rw [output, validated, Output.success]
  constructor
  case status =>
    intro command json verbose
    rw [output]
    cases command <;> cases json <;> simp only [runText, Options.mode, parsed] <;> rfl
  case validate =>
    intro verbose
    rw [output, validated, Output.success, unlines_singleton, String.append_assoc]
    rfl
  case warnings => exact warnings
  case warningLines =>
    intro verbose
    have described (placed : PlacedLink) (isDangling : placed ∈ book.danglingLinks) :
        '\n' ∉ (Verdict.describe placed).toList :=
      newline_not_mem_describe parsed placed (List.mem_of_mem_filter isDangling)
    rw [warnings, countP_warnings described]
  case validateJson =>
    intro verbose
    have ran : runText .validate ⟨true, verbose, lenient, marker⟩ script =
        .success [Json.compact (Verdict.record (.valid book.danglingLinks))] [] := by
      simp only [runText, Options.mode, parsed]
      rfl
    refine ⟨book.danglingLinks.map (.str ∘ Verdict.describe), List.length_map _, ?_⟩
    rw [output, ran, Output.success, unlines_singleton]
    exact ⟨rfl, Json.read?_eq_some_iff.mpr (Json.writes_compact_line _)⟩
  case stats =>
    intro verbose
    obtain ⟨before, behind, six, table⟩ := table_split book.title book.tally
    have ran : runText .stats ⟨false, verbose, lenient, marker⟩ script =
        .success (Counts.table book.title book.tally) [] := by
      simp only [runText, Options.mode, parsed]
      rfl
    rw [output, ran, Output.success, table]
    exact ⟨before, behind, six, rfl⟩
  case statsJson =>
    intro verbose
    have ran : runText .stats ⟨true, verbose, lenient, marker⟩ script =
        .success [Json.pretty (Counts.record book.tally)] [] := by
      simp only [runText, Options.mode, parsed]
      rfl
    rw [output, ran, Output.success, unlines_singleton]
    exact ⟨_, Json.read?_eq_some_iff.mpr (Json.writes_pretty_line _), rfl⟩

/-! ## Agreement -/

/-- For one file, the commands agree with the library and with each other. -/
structure Agree (path : String) (content : Except ReadFault ByteArray) (lenient : Bool)
    (marker : Marker) : Prop where
  /-- A command succeeds exactly if the file has a book, whatever the command and the flags. -/
  success : ∀ command json verbose,
    (outputs path content lenient marker command json verbose).exitStatus = 0 ↔
      ∃ book, Yields lenient marker content (.ok book)
  /-- A command that does not succeed has one status. -/
  failure : ∀ command json verbose,
    (outputs path content lenient marker command json verbose).exitStatus ≠ 0 →
      (outputs path content lenient marker command json verbose).exitStatus = 1
  /-- Without a text, the commands say why. -/
  unread : ∀ fault, Unreadable content fault →
    Unread (outputs path content lenient marker) path fault
  /-- With an error, the commands tell of it. -/
  rejects : ∀ error, Yields lenient marker content (.error error) →
    Rejects (outputs path content lenient marker) error
  /-- With a book, the commands agree on its dangling links. -/
  accepts : ∀ book, Yields lenient marker content (.ok book) →
    Accepts (outputs path content lenient marker) book

theorem Rejects.status {outputs : Outputs} {error : ParseError} (rejects : Rejects outputs error)
    (command : Command) (json verbose : Bool) : (outputs command json verbose).exitStatus = 1 := by
  by_cases validates : command = .validate
  · subst validates
    cases json with
    | false => rw [rejects.validate]
    | true => exact (rejects.validateJson verbose).1
  · rw [rejects.plain command json verbose validates]

theorem Unreadable.not_yields {fault : ReadFault} {result : Except ParseError Book}
    (unreadable : Unreadable content fault) (yields : Yields lenient marker content result) :
    False := by
  obtain ⟨script, decoded, -⟩ := yields.exists_script
  rw [decode_of_unreadable unreadable] at decoded
  cases decoded

theorem Yields.unique {first second : Except ParseError Book}
    (yields : Yields lenient marker content first) (other : Yields lenient marker content second) :
    first = second := by
  obtain ⟨script, decoded, rfl⟩ := yields.exists_script
  obtain ⟨script', decoded', rfl⟩ := other.exists_script
  rw [decoded] at decoded'
  cases decoded'
  rfl

/-- The status is zero if there is a book, and one if there is none. -/
theorem status_outputs (path : String) (content : Except ReadFault ByteArray) (lenient : Bool)
    (marker : Marker) (command : Command) (json verbose : Bool) :
    ((∃ book, Yields lenient marker content (.ok book)) ∧
      (outputs path content lenient marker command json verbose).exitStatus = 0) ∨
    ((¬ ∃ book, Yields lenient marker content (.ok book)) ∧
      (outputs path content lenient marker command json verbose).exitStatus = 1) := by
  rcases unreadable_or_yields content lenient marker with ⟨fault, unreadable⟩ | ⟨result, yields⟩
  · refine .inr ⟨fun ⟨book, yields⟩ => unreadable.not_yields yields, ?_⟩
    rw [(unread_outputs path unreadable).output]
  · cases result with
    | ok book =>
      exact .inl ⟨⟨book, yields⟩, (accepts_outputs path yields).status command json verbose⟩
    | error error =>
      refine .inr ⟨?_, (rejects_outputs path yields).status command json verbose⟩
      rintro ⟨book, other⟩
      cases yields.unique other

/-- The commands agree on every file, with every marker and in both modes. -/
theorem commands_agree (path : String) (content : Except ReadFault ByteArray) (lenient : Bool)
    (marker : Marker) : Agree path content lenient marker := by
  have status := status_outputs path content lenient marker
  constructor
  case success =>
    intro command json verbose
    rcases status command json verbose with ⟨found, zero⟩ | ⟨missing, one⟩
    · exact ⟨fun _ => found, fun _ => zero⟩
    · exact ⟨fun zero => by simp [one] at zero, fun found => absurd found missing⟩
  case failure =>
    intro command json verbose failed
    rcases status command json verbose with ⟨-, zero⟩ | ⟨-, one⟩
    · exact absurd zero failed
    · exact one
  case unread => exact fun fault unreadable => unread_outputs path unreadable
  case rejects => exact fun error yields => rejects_outputs path yields
  case accepts => exact fun book yields => accepts_outputs path yields

end Gamebook.Cli
