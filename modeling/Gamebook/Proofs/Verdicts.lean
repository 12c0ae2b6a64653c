import Gamebook.Proofs.Commands

/-!
# Verdicts on one line

As JSON, `validate` prints its verdict on one line.  No text breaks the line, since the
compact layout has no white space of its own and the characters below U+0020 are escaped
(`noControls_render`).  So there is one newline, which is the last character.

The line tells all of the verdict.  It is read back as an object, and the fields of the
object are looked up by their keys (`VerdictReport.ofJson?`), so that nothing is said about
their order.
-/

namespace Gamebook.Json

/-! ## Control characters -/

/-- No character is below U+0020. -/
def NoControls (chars : List Char) : Prop := ∀ c ∈ chars, 32 ≤ c.toNat

@[simp] theorem noControls_nil : NoControls [] := List.forall_mem_nil _

@[simp] theorem noControls_cons {c : Char} {rest : List Char} :
    NoControls (c :: rest) ↔ 32 ≤ c.toNat ∧ NoControls rest :=
  List.forall_mem_cons

@[simp] theorem noControls_append {first second : List Char} :
    NoControls (first ++ second) ↔ NoControls first ∧ NoControls second :=
  List.forall_mem_append

/-- A newline is a control character. -/
theorem NoControls.newline_not_mem {chars : List Char} (clear : NoControls chars) :
    '\n' ∉ chars := fun inside => absurd (clear '\n' inside) (by decide)

/-- The digits of an escape are no control characters, although what they stand for is. -/
theorem noControls_hexDigits {code : Nat} (low : code < 32) : NoControls (hexDigits code) := by
  have digits : ∀ digit < 16, 32 ≤ (Nat.digitChar digit).toNat := by decide
  simp [hexDigits, digits (code / 16) (by omega), digits (code % 16) (by omega)]

/-- No character is written as a control character, since those are escaped. -/
theorem noControls_escapeChar (c : Char) : NoControls (escapeChar c) := by
  unfold escapeChar
  split_ifs <;> simp_all [noControls_hexDigits]

/-- A quoted text is clear, whatever is in the text. -/
@[simp] theorem noControls_quote (text : String) : NoControls (quote text) := by
  have inside : NoControls (text.toList.flatMap escapeChar) := by
    intro c isWritten
    obtain ⟨d, -, escaped⟩ := List.mem_flatMap.mp isWritten
    exact noControls_escapeChar d c escaped
  simp [quote, inside]

theorem noControls_num (value : Nat) : NoControls value.repr.toList := by
  intro c inside
  have digit : c.isDigit = true := @Word.isDigit_of_mem_num value c inside
  rw [Char.isDigit_iff_toNat] at digit
  exact Nat.le_trans (by decide) digit.1

theorem Layout.lineBreak_compact (depth : Nat) : Layout.compact.lineBreak depth = [] := rfl

theorem Layout.afterColon_compact : Layout.compact.afterColon = [] := rfl

mutual

/-- A value in the compact layout has no control characters, since those of its texts are
escaped. -/
theorem noControls_render : ∀ (value : Json) (depth : Nat),
    NoControls (render .compact depth value)
  | .null, _ | .bool true, _ | .bool false, _ | .arr [], _ | .obj [], _ => by simp [render]
  | .num value, _ => noControls_num value
  | .str text, _ => noControls_quote text
  | .arr (item :: rest), depth => by
    have first := noControls_render item (depth + 1)
    have others := noControls_renderItems rest (depth + 1)
    simp [render, Layout.lineBreak_compact, first, others]
  | .obj ((key, value) :: rest), depth => by
    have first := noControls_render value (depth + 1)
    have others := noControls_renderFields rest (depth + 1)
    simp [render, Layout.lineBreak_compact, Layout.afterColon_compact, first, others]

theorem noControls_renderItems : ∀ (items : List Json) (depth : Nat),
    NoControls (renderItems .compact depth items)
  | [], _ => noControls_nil
  | item :: rest, depth => by
    have first := noControls_render item depth
    have others := noControls_renderItems rest depth
    simp [renderItems, Layout.lineBreak_compact, first, others]

theorem noControls_renderFields : ∀ (fields : List (String × Json)) (depth : Nat),
    NoControls (renderFields .compact depth fields)
  | [], _ => noControls_nil
  | (key, value) :: rest, depth => by
    have first := noControls_render value depth
    have others := noControls_renderFields rest depth
    simp [renderFields, Layout.lineBreak_compact, Layout.afterColon_compact, first, others]

end

/-- A value in the compact layout is on one line. -/
theorem newline_not_mem_compact (value : Json) : '\n' ∉ (compact value).toList := by
  rw [compact, String.toList_ofList]
  exact (noControls_render value 0).newline_not_mem

/-! ## Values of one kind -/

/-- The truth value that this is. -/
def toBool? : Json → Option Bool
  | .bool value => some value
  | _ => none

/-- The count that this is. -/
def toNum? : Json → Option Nat
  | .num value => some value
  | _ => none

/-- The text that this is. -/
def toStr? : Json → Option String
  | .str value => some value
  | _ => none

/-- The items of the list that this is. -/
def toItems? : Json → Option (List Json)
  | .arr items => some items
  | _ => none

/-- What is read, or nothing if the value is absent. -/
def orNull? {α : Type} (read : Json → Option α) : Json → Option (Option α)
  | .null => some none
  | value => (read value).map some

/-- A text that may be absent is read back, and so is its absence. -/
@[simp] theorem orNull?_optStr (text : Option String) :
    orNull? toStr? (optStr text) = some text := by
  cases text <;> rfl

@[simp] theorem orNull?_optNum (value : Option Nat) :
    orNull? toNum? (optNum value) = some value := by
  cases value <;> rfl

/-- A field is looked up from the front of the object. -/
@[simp] theorem field?_obj_cons (key name : String) (value : Json) (fields : List (String × Json)) :
    (obj ((name, value) :: fields)).field? key =
      if key = name then some value else (obj fields).field? key := by
  by_cases same : key = name
  · simp [field?, same]
  · simp [field?, List.lookup_cons, same, beq_false_of_ne same]

/-- A list of texts is read back text by text. -/
theorem mapM_toStr? (texts : List String) : (texts.map Json.str).mapM toStr? = some texts := by
  induction texts with
  | nil => rfl
  | cons text texts ih => simp [ih, toStr?]

end Gamebook.Json

namespace Gamebook.Report

open Gamebook.Script Gamebook.Story

/-! ## What a verdict tells -/

/-- What is told of an error. -/
structure ErrorReport where
  /-- The name of its category. -/
  kind : String
  /-- The error in words. -/
  message : String
  /-- The line, if the error is on one. -/
  line : Option Nat
  /-- The chapter that the error is in, if there is one. -/
  chapterId : Option String
  /-- The section that the error is in, if there is one. -/
  sectionId : Option String
  deriving DecidableEq, Repr

/-- What a verdict tells. -/
structure VerdictReport where
  /-- The script has a book. -/
  valid : Bool
  /-- The errors. -/
  errors : List ErrorReport
  /-- The warnings in words. -/
  warnings : List String
  deriving DecidableEq, Repr

/-- What there is to tell of an error. -/
def ErrorReport.ofError (error : ParseError) : ErrorReport :=
  ⟨error.kind.name, error.message, error.line?, error.scope.chapterId, error.scope.sectionId⟩

/-- What there is to tell of the result of a parse. -/
def VerdictReport.ofResult : Except ParseError Book → VerdictReport
  | .error error => ⟨false, [.ofError error], []⟩
  | .ok book => ⟨true, [], book.danglingLinks.map Verdict.describe⟩

/-- What the fields of an object tell of an error. -/
def ErrorReport.ofJson? (value : Json) : Option ErrorReport := do
  let kind ← (← value.field? "kind").toStr?
  let message ← (← value.field? "message").toStr?
  let line ← (← value.field? "line").orNull? Json.toNum?
  let chapterId ← (← value.field? "chapter").orNull? Json.toStr?
  let sectionId ← (← value.field? "section").orNull? Json.toStr?
  return ⟨kind, message, line, chapterId, sectionId⟩

/-- What the fields of an object tell of a script. -/
def VerdictReport.ofJson? (value : Json) : Option VerdictReport := do
  let valid ← (← value.field? "valid").toBool?
  let errors ← (← (← value.field? "errors").toItems?).mapM ErrorReport.ofJson?
  let warnings ← (← (← value.field? "warnings").toItems?).mapM Json.toStr?
  return ⟨valid, errors, warnings⟩

/-- The record of an error is read back field by field, also where it has no line or no scope. -/
theorem ErrorReport.ofJson?_errorRecord (error : ParseError) :
    ofJson? (Verdict.errorRecord error) = some (ofError error) := by
  simp [ofJson?, Verdict.errorRecord, Json.toStr?, ofError]

/-- The record of a verdict tells what there is to tell. -/
theorem VerdictReport.ofJson?_record (result : Except ParseError Book) :
    ofJson? (Verdict.ofResult result).record = some (ofResult result) := by
  cases result with
  | error error =>
    simp [ofJson?, ofResult, Verdict.ofResult, Verdict.record, Json.toBool?, Json.toItems?,
      ErrorReport.ofJson?_errorRecord]
  | ok book =>
    have warnings := Json.mapM_toStr? (book.danglingLinks.map Verdict.describe)
    rw [List.map_map] at warnings
    simp [ofJson?, ofResult, Verdict.ofResult, Verdict.record, Json.toBool?, Json.toItems?,
      warnings]

end Gamebook.Report

namespace Gamebook.Cli

open Gamebook.Report Gamebook.Script Gamebook.Story

variable {content : Except ReadFault ByteArray} {lenient : Bool} {marker : Marker}

/-! ## The line of a verdict -/

/-- With `--json` the verdict is all that is printed to standard output, on a line. -/
theorem stdout_showVerdict_json (verbose lenient : Bool) (marker : Marker) (verdict : Verdict) :
    (showVerdict ⟨true, verbose, lenient, marker⟩ verdict).stdout =
      Json.compact verdict.record ++ "\n" := by
  cases verdict <;> exact unlines_singleton _

/-- A verdict is recorded as an object, whichever way it went. -/
theorem exists_record_eq_obj (verdict : Verdict) : ∃ fields, verdict.record = .obj fields := by
  cases verdict <;> exact ⟨_, rfl⟩

/-- As JSON, `validate` prints one line, which is read back as what there is to tell. -/
theorem validate_prints_report (path : String) {result : Except ParseError Book} (verbose : Bool)
    (yields : Yields lenient marker content result) :
    ∃ line fields, (outputs path content lenient marker .validate true verbose).stdout =
        line ++ "\n" ∧
      '\n' ∉ line.toList ∧
      Json.read? line = some (.obj fields) ∧
      VerdictReport.ofJson? (.obj fields) = some (.ofResult result) := by
  obtain ⟨script, parsed, output⟩ := yields.exists_outputs path
  obtain ⟨fields, isObject⟩ := exists_record_eq_obj (.ofResult result)
  refine ⟨Json.compact (Verdict.ofResult result).record, fields, ?_, ?_, ?_, ?_⟩
  · rw [output, runText, Options.mode, parsed, stdout_showVerdict_json]
  · exact Json.newline_not_mem_compact _
  · rw [← isObject, Json.read?_eq_some_iff]
    exact Json.writes_compact _
  · rw [← isObject, VerdictReport.ofJson?_record]

/-- A file that holds the bytes of a script yields what the script parses to. -/
theorem yields_toUTF8 (lenient : Bool) (marker : Marker) (script : String) :
    Yields lenient marker (.ok script.toUTF8)
      (parse (if lenient then .lenient else .strict) (tokens marker script)).result := by
  refine .script ?_
  have valid : script.toUTF8.IsValidUTF8 := script.isValidUTF8
  rw [String.fromUTF8?, dif_pos valid]
  rfl

/-- A script with one link, which has a tab, a quote and a backslash in its words and dangles. -/
def quotedLink : String := "@book\nT\n@chapter c\nC\n@section s\nS\n@> x\\ a\t\"b"

/-- The one link has a tab, a quote and a backslash in its words, and all of them come back. -/
theorem validate_prints_quotedLink :
    ∃ line fields, (outputs "tale" (.ok quotedLink.toUTF8) false (.ofString "@")
        .validate true false).stdout = line ++ "\n" ∧
      '\n' ∉ line.toList ∧
      Json.read? line = some (.obj fields) ∧
      VerdictReport.ofJson? (.obj fields) =
        some ⟨true, [], ["link \"a\t\"b\" in c/s points to missing section c/x\\"]⟩ := by
  have parsed : VerdictReport.ofResult (parse .strict (tokens (.ofString "@") quotedLink)).result =
      ⟨true, [], ["link \"a\t\"b\" in c/s points to missing section c/x\\"]⟩ := by
    decide +kernel
  have printed := validate_prints_report "tale" false
    (yields_toUTF8 false (.ofString "@") quotedLink)
  rwa [if_neg Bool.false_ne_true, parsed] at printed

end Gamebook.Cli
