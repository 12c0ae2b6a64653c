import Gamebook.Proofs.Lexemes

/-!
# Reading JSON values

A value has one sequence of lexemes (`Json.lexemes`).  Reading goes through the
lexemes with a stack of the lists and objects that are open.  A reader is exact: the
lexemes that it accepts are those of the value that it finds (`ofLexemes?_eq_some_iff`).

`Writes value text` says that the text is JSON for the value, whatever its white space
and its escapes.  `read?` finds the value (`read?_eq_some_iff`), so that a text is JSON
for one value at most.

A value that is rendered in a layout of blanks is JSON for it (`writes_render`).
Both layouts are.
-/

namespace Gamebook.Json

/-! ## The lexemes of a value -/

mutual

/-- The lexemes of the value. -/
def lexemes : Json → List Lexeme
  | .null => [.word .null]
  | .bool value => [.word (.bool value)]
  | .num value => [.word (.num value)]
  | .str value => [.text value]
  | .arr [] => [.mark .openList, .mark .closeList]
  | .arr (item :: rest) =>
    .mark .openList :: lexemes item ++ lexemesOfItems rest ++ [.mark .closeList]
  | .obj [] => [.mark .openObject, .mark .closeObject]
  | .obj ((key, value) :: rest) =>
    .mark .openObject :: .text key :: .mark .colon :: lexemes value ++ lexemesOfFields rest ++
      [.mark .closeObject]

/-- The lexemes of the items after the first. -/
def lexemesOfItems : List Json → List Lexeme
  | [] => []
  | item :: rest => .mark .comma :: lexemes item ++ lexemesOfItems rest

/-- The lexemes of the fields after the first. -/
def lexemesOfFields : List (String × Json) → List Lexeme
  | [] => []
  | (key, value) :: rest =>
    .mark .comma :: .text key :: .mark .colon :: lexemes value ++ lexemesOfFields rest

end

/-! ## Reading lexemes -/

/-- A list or an object that is open, with the value at hand still to come. -/
inductive Frame where
  /-- A list with these items before. -/
  | list (items : List Json)
  /-- An object with these fields before, and the key of the value at hand. -/
  | object (fields : List (String × Json)) (key : String)

/-- How far the reading has come. -/
inductive Reader where
  /-- A value is to come. -/
  | awaitValue (stack : List Frame)
  /-- A list has begun. -/
  | awaitItem (stack : List Frame)
  /-- An object has begun. -/
  | awaitField (stack : List Frame)
  /-- Another key is to come. -/
  | awaitKey (stack : List Frame) (fields : List (String × Json))
  /-- A colon is to come. -/
  | awaitColon (stack : List Frame) (fields : List (String × Json)) (key : String)
  /-- There is a value. -/
  | hold (stack : List Frame) (value : Json)

namespace Reader

/-- The value that a word is. -/
def ofWord : Word → Json
  | .null => .null
  | .bool value => .bool value
  | .num value => .num value

/-- A value begins with the lexeme. -/
def begin? (stack : List Frame) : Lexeme → Option Reader
  | .word word => some (.hold stack (ofWord word))
  | .text value => some (.hold stack (.str value))
  | .mark .openList => some (.awaitItem stack)
  | .mark .openObject => some (.awaitField stack)
  | .mark _ => none

/-- What the next lexeme leads to. -/
def step : Reader → Lexeme → Option Reader
  | .awaitValue stack, lexeme => begin? stack lexeme
  | .awaitItem stack, .mark .closeList => some (.hold stack (.arr []))
  | .awaitItem stack, lexeme => begin? (.list [] :: stack) lexeme
  | .awaitField stack, .mark .closeObject => some (.hold stack (.obj []))
  | .awaitField stack, .text key => some (.awaitColon stack [] key)
  | .awaitKey stack fields, .text key => some (.awaitColon stack fields key)
  | .awaitColon stack fields key, .mark .colon => some (.awaitValue (.object fields key :: stack))
  | .hold (.list items :: stack) value, .mark .comma =>
    some (.awaitValue (.list (items ++ [value]) :: stack))
  | .hold (.list items :: stack) value, .mark .closeList =>
    some (.hold stack (.arr (items ++ [value])))
  | .hold (.object fields key :: stack) value, .mark .comma =>
    some (.awaitKey stack (fields ++ [(key, value)]))
  | .hold (.object fields key :: stack) value, .mark .closeObject =>
    some (.hold stack (.obj (fields ++ [(key, value)])))
  | _, _ => none

/-- The value, if all that was opened is closed. -/
def result? : Reader → Option Json
  | .hold [] value => some value
  | _ => none

end Reader

/-- The value that the lexemes are. -/
def ofLexemes? (lexemes : List Lexeme) : Option Json :=
  (lexemes.foldlM Reader.step (.awaitValue [])).bind Reader.result?

/-! ## What has been read -/

/-- An item with the comma behind it. -/
def itemPast (item : Json) : List Lexeme := lexemes item ++ [.mark .comma]

/-- A field with the comma behind it. -/
def fieldPast (field : String × Json) : List Lexeme :=
  .text field.1 :: .mark .colon :: lexemes field.2 ++ [.mark .comma]

/-- One more item stands before the closing bracket. -/
theorem lexemes_arr_append (items : List Json) (value : Json) :
    lexemes (.arr (items ++ [value])) =
      .mark .openList :: items.flatMap itemPast ++ lexemes value ++ [.mark .closeList] := by
  -- Here a comma belongs to the item before it, and in `lexemesOfItems` to the one after it.
  have joined (item : Json) (rest : List Json) : lexemes item ++ lexemesOfItems (rest ++ [value]) =
      (item :: rest).flatMap itemPast ++ lexemes value := by
    induction rest generalizing item with
    | nil => simp [lexemesOfItems, itemPast]
    | cons other rest ih =>
      have tail := ih other
      simp only [List.cons_append, lexemesOfItems, List.flatMap_cons, itemPast, List.append_assoc,
        List.nil_append, List.append_cancel_left_eq] at tail ⊢
      simp [tail]
  cases items with
  | nil => simp [lexemes, lexemesOfItems]
  | cons item rest => simp only [List.cons_append, lexemes, joined]

theorem lexemes_obj_append (fields : List (String × Json)) (key : String) (value : Json) :
    lexemes (.obj (fields ++ [(key, value)])) =
      .mark .openObject :: fields.flatMap fieldPast ++ .text key :: .mark .colon :: lexemes value ++
        [.mark .closeObject] := by
  have joined (field : String × Json) (rest : List (String × Json)) :
      .text field.1 :: .mark .colon :: lexemes field.2 ++ lexemesOfFields (rest ++ [(key, value)]) =
        (field :: rest).flatMap fieldPast ++ .text key :: .mark .colon :: lexemes value := by
    induction rest generalizing field with
    | nil => simp [lexemesOfFields, fieldPast]
    | cons other rest ih =>
      have tail := ih other
      simp only [List.cons_append, lexemesOfFields, List.flatMap_cons, fieldPast, List.append_assoc,
        List.nil_append, List.cons.injEq, List.append_cancel_left_eq, true_and] at tail ⊢
      simp [tail]
  cases fields with
  | nil => simp [lexemes, lexemesOfFields]
  | cons field rest =>
    have whole := congrArg
      (fun inner => Lexeme.mark .openObject :: inner ++ [.mark .closeObject]) (joined field rest)
    simpa only [List.cons_append, lexemes] using whole

namespace Reader

/-- The lexemes before a value in the frame. -/
def framePast : Frame → List Lexeme
  | .list items => .mark .openList :: items.flatMap itemPast
  | .object fields key =>
    .mark .openObject :: fields.flatMap fieldPast ++ [.text key, .mark .colon]

/-- The lexemes before a value on the stack. -/
def stackPast : List Frame → List Lexeme
  | [] => []
  | frame :: outer => stackPast outer ++ framePast frame

/-- The lexemes that have been read. -/
def past : Reader → List Lexeme
  | .awaitValue stack => stackPast stack
  | .awaitItem stack => stackPast stack ++ [.mark .openList]
  | .awaitField stack => stackPast stack ++ [.mark .openObject]
  | .awaitKey stack fields => stackPast stack ++ .mark .openObject :: fields.flatMap fieldPast
  | .awaitColon stack fields key =>
    stackPast stack ++ .mark .openObject :: fields.flatMap fieldPast ++ [.text key]
  | .hold stack value => stackPast stack ++ lexemes value

theorem past_of_begin? {stack : List Frame} {lexeme : Lexeme} {next : Reader}
    (begun : begin? stack lexeme = some next) : next.past = stackPast stack ++ [lexeme] := by
  unfold begin? at begun
  split at begun <;> cases begun
  · rename_i word
    cases word <;> rfl
  all_goals rfl

/-- Each step reads its lexeme. -/
theorem past_of_step {reader next : Reader} {lexeme : Lexeme}
    (stepped : step reader lexeme = some next) : next.past = reader.past ++ [lexeme] := by
  unfold step at stepped
  split at stepped
  · exact past_of_begin? stepped
  · cases stepped
    simp [past, lexemes]
  · rw [past_of_begin? stepped]
    simp [past, stackPast, framePast]
  all_goals cases stepped
  · simp [past, lexemes]
  · simp [past]
  · simp [past]
  · simp [past, stackPast, framePast]
  · simp [past, stackPast, framePast, itemPast]
  · simp [past, stackPast, framePast, lexemes_arr_append]
  · simp [past, stackPast, framePast, fieldPast]
  · simp [past, stackPast, framePast, lexemes_obj_append]

/-- A reader remembers what it has read: values that are complete, and the rest in its stack. -/
theorem past_of_foldlM {lexemes : List Lexeme} {reader last : Reader}
    (read : lexemes.foldlM step reader = some last) : last.past = reader.past ++ lexemes := by
  induction lexemes generalizing reader with
  | nil =>
    cases read
    rw [List.append_nil]
  | cons lexeme rest ih =>
    rw [List.foldlM_cons] at read
    obtain ⟨next, stepped, onward⟩ := Option.bind_eq_some_iff.mp read
    rw [ih onward, past_of_step stepped, List.append_assoc, List.singleton_append]

/-! ## Reading the lexemes of a value -/

theorem foldlM_cons_of_step {reader next : Reader} {lexeme : Lexeme} {rest : List Lexeme}
    (stepped : step reader lexeme = some next) :
    (lexeme :: rest).foldlM step reader = rest.foldlM step next := by
  rw [List.foldlM_cons, stepped]
  rfl

theorem foldlM_append_of_foldlM {reader next : Reader} {lexemes rest : List Lexeme}
    (read : lexemes.foldlM step reader = some next) :
    (lexemes ++ rest).foldlM step reader = rest.foldlM step next := by
  rw [List.foldlM_append, read]
  rfl

/-- The first item of a list is read like any other. -/
theorem foldlM_item (stack : List Frame) (value : Json) :
    (lexemes value).foldlM step (.awaitItem stack) =
      (lexemes value).foldlM step (.awaitValue (.list [] :: stack)) := by
  cases value with
  | arr items => cases items <;> rfl
  | obj fields => cases fields <;> rfl
  | _ => rfl

mutual

/-- The lexemes of a value are read as that value, whatever is on the stack. -/
theorem foldlM_lexemes : ∀ (value : Json) (stack : List Frame),
    (lexemes value).foldlM step (.awaitValue stack) = some (.hold stack value)
  | .null, _ | .bool _, _ | .num _, _ | .str _, _ | .arr [], _ | .obj [], _ => rfl
  | .arr (item :: rest), stack => by
    have first := (foldlM_item stack item).trans (foldlM_lexemes item _)
    rw [lexemes, List.append_assoc, List.cons_append, foldlM_cons_of_step rfl,
      foldlM_append_of_foldlM first, foldlM_items, List.nil_append]
  | .obj ((key, value) :: rest), stack => by
    rw [lexemes, List.append_assoc, List.cons_append, List.cons_append, List.cons_append,
      foldlM_cons_of_step rfl, foldlM_cons_of_step rfl, foldlM_cons_of_step rfl,
      foldlM_append_of_foldlM (foldlM_lexemes value _), foldlM_fields, List.nil_append]

theorem foldlM_items : ∀ (rest : List Json) (stack : List Frame) (items : List Json) (value : Json),
    (lexemesOfItems rest ++ [Lexeme.mark .closeList]).foldlM step
        (.hold (.list items :: stack) value) =
      some (.hold stack (.arr (items ++ value :: rest)))
  | [], _, _, _ => rfl
  | item :: rest, stack, items, value => by
    rw [lexemesOfItems, List.append_assoc, List.cons_append, foldlM_cons_of_step rfl,
      foldlM_append_of_foldlM (foldlM_lexemes item _), foldlM_items, ← List.append_cons]

theorem foldlM_fields : ∀ (rest : List (String × Json)) (stack : List Frame)
    (fields : List (String × Json)) (key : String) (value : Json),
    (lexemesOfFields rest ++ [Lexeme.mark .closeObject]).foldlM step
        (.hold (.object fields key :: stack) value) =
      some (.hold stack (.obj (fields ++ (key, value) :: rest)))
  | [], _, _, _, _ => rfl
  | (other, item) :: rest, stack, fields, key, value => by
    rw [lexemesOfFields, List.append_assoc, List.cons_append, List.cons_append, List.cons_append,
      foldlM_cons_of_step rfl, foldlM_cons_of_step rfl, foldlM_cons_of_step rfl,
      foldlM_append_of_foldlM (foldlM_lexemes item _), foldlM_fields, ← List.append_cons]

end

end Reader

/-- The lexemes that are read are those of the value. -/
theorem ofLexemes?_eq_some_iff {lexemes : List Lexeme} {value : Json} :
    ofLexemes? lexemes = some value ↔ value.lexemes = lexemes := by
  constructor
  · intro read
    obtain ⟨last, read, result⟩ := Option.bind_eq_some_iff.mp read
    obtain rfl : last = .hold [] value := by
      unfold Reader.result? at result
      split at result <;> cases result
      rfl
    exact Reader.past_of_foldlM read
  · rintro rfl
    rw [ofLexemes?, Reader.foldlM_lexemes]
    rfl

/-! ## JSON texts -/

/-- The text is JSON for the value. -/
def Writes (value : Json) (text : String) : Prop := Spells value.lexemes text.toList

/-- The value that the text is JSON for. -/
def read? (text : String) : Option Json := (lex? text).bind ofLexemes?

/-- Reading finds the value that a text is JSON for. -/
theorem read?_eq_some_iff {text : String} {value : Json} :
    read? text = some value ↔ value.Writes text := by
  simp only [read?, Option.bind_eq_some_iff, lex?_eq_some_iff, ofLexemes?_eq_some_iff, Writes]
  constructor
  · rintro ⟨lexemes, spells, rfl⟩
    exact spells
  · exact fun spells => ⟨value.lexemes, spells, rfl⟩

/-! ## Rendered values -/

/-- All white space of the layout is blank. -/
structure Layout.Blank (layout : Layout) : Prop where
  /-- So is that between two lines. -/
  lineBreak : ∀ depth, ∀ c ∈ layout.lineBreak depth, isBlank c = true
  /-- So is that after a colon. -/
  afterColon : ∀ c ∈ layout.afterColon, isBlank c = true

theorem Layout.blank_compact : Layout.compact.Blank := ⟨nofun, nofun⟩

theorem Layout.blank_pretty : Layout.pretty.Blank where
  lineBreak depth c mem := by
    rcases List.mem_cons.mp mem with rfl | mem
    · rfl
    · rw [List.eq_of_mem_replicate mem]
      rfl
  afterColon c mem := by
    rw [List.mem_singleton.mp mem]
    rfl


section Blanks

variable {space rest : List Char} {lexemes : List Lexeme}

theorem Spells.blanks (blank : ∀ c ∈ space, isBlank c = true) (spells : Spells lexemes rest) :
    Spells lexemes (space ++ rest) := by
  induction space with
  | nil => exact spells
  | cons c others ih =>
    exact .blank (blank c List.mem_cons_self) (ih fun d mem => blank d (List.mem_cons_of_mem _ mem))

theorem EndsWord.blanks (blank : ∀ c ∈ space, isBlank c = true) (ends : EndsWord rest) :
    EndsWord (space ++ rest) := by
  cases space with
  | nil => exact ends
  | cons c others => exact (isBlank_other (blank c List.mem_cons_self)).1

/-- A word ends before the items that follow, since a comma comes first. -/
theorem EndsWord.renderItems {layout : Layout} {depth : Nat} (ends : EndsWord rest)
    (items : List Json) : EndsWord (renderItems layout depth items ++ rest) := by
  cases items with
  | nil => exact ends
  | cons => rfl

theorem EndsWord.renderFields {layout : Layout} {depth : Nat} (ends : EndsWord rest)
    (fields : List (String × Json)) : EndsWord (renderFields layout depth fields ++ rest) := by
  cases fields with
  | nil => exact ends
  | cons => rfl

end Blanks

section Render

variable {layout : Layout} (blank : layout.Blank)

include blank

mutual

/-- The text of a value spells its lexemes, in every layout that adds blanks only. -/
theorem spells_render : ∀ (value : Json) (depth : Nat) {more : List Lexeme} {rest : List Char},
    EndsWord rest → Spells more rest →
      Spells (lexemes value ++ more) (render layout depth value ++ rest)
  | .null, _, _, _, ends, spells => @Spells.word .null _ _ ends spells
  | .bool true, _, _, _, ends, spells => @Spells.word (.bool true) _ _ ends spells
  | .bool false, _, _, _, ends, spells => @Spells.word (.bool false) _ _ ends spells
  | .num value, _, _, _, ends, spells => @Spells.word (.num value) _ _ ends spells
  | .str value, _, _, _, _, spells => spells.quote value
  | .arr [], _, _, _, _, spells => @Spells.mark .openList _ _ (@Spells.mark .closeList _ _ spells)
  | .obj [], _, _, _, _, spells =>
    @Spells.mark .openObject _ _ (@Spells.mark .closeObject _ _ spells)
  | .arr (item :: others), depth, more, rest, ends, spells => by
    have close := Spells.blanks (blank.lineBreak depth) (@Spells.mark .closeList _ _ spells)
    have ends : EndsWord (layout.lineBreak depth ++ ']' :: rest) :=
      .blanks (blank.lineBreak depth) rfl
    have items := spells_renderItems others (depth + 1) ends close
    have first := spells_render item (depth + 1) (ends.renderItems others) items
    have whole := @Spells.mark .openList _ _ (.blanks (blank.lineBreak (depth + 1)) first)
    simpa [lexemes, render, Mark.char] using whole
  | .obj ((key, value) :: others), depth, more, rest, ends, spells => by
    have close := Spells.blanks (blank.lineBreak depth) (@Spells.mark .closeObject _ _ spells)
    have ends : EndsWord (layout.lineBreak depth ++ '\x7d' :: rest) :=
      .blanks (blank.lineBreak depth) rfl
    have fields := spells_renderFields others (depth + 1) ends close
    have first := spells_render value (depth + 1) (ends.renderFields others) fields
    have keyed := (@Spells.mark .colon _ _ (.blanks blank.afterColon first)).quote key
    have whole := @Spells.mark .openObject _ _ (.blanks (blank.lineBreak (depth + 1)) keyed)
    simpa [lexemes, render, Mark.char] using whole

theorem spells_renderItems : ∀ (items : List Json) (depth : Nat) {more : List Lexeme}
    {rest : List Char}, EndsWord rest → Spells more rest →
      Spells (lexemesOfItems items ++ more) (renderItems layout depth items ++ rest)
  | [], _, _, _, _, spells => spells
  | item :: others, depth, more, rest, ends, spells => by
    have items := spells_renderItems others depth ends spells
    have first := spells_render item depth (ends.renderItems others) items
    have behind := @Spells.mark .comma _ _ (.blanks (blank.lineBreak depth) first)
    simpa [lexemesOfItems, renderItems, Mark.char] using behind

theorem spells_renderFields : ∀ (fields : List (String × Json)) (depth : Nat) {more : List Lexeme}
    {rest : List Char}, EndsWord rest → Spells more rest →
      Spells (lexemesOfFields fields ++ more) (renderFields layout depth fields ++ rest)
  | [], _, _, _, _, spells => spells
  | (key, value) :: others, depth, more, rest, ends, spells => by
    have fields := spells_renderFields others depth ends spells
    have first := spells_render value depth (ends.renderFields others) fields
    have keyed := (@Spells.mark .colon _ _ (.blanks blank.afterColon first)).quote key
    have behind := @Spells.mark .comma _ _ (.blanks (blank.lineBreak depth) keyed)
    simpa [lexemesOfFields, renderFields, Mark.char] using behind

end

/-- A rendered value is JSON for the value, also with blanks behind it. -/
theorem writes_render {space : List Char} (behind : ∀ c ∈ space, isBlank c = true) (value : Json)
    (depth : Nat) : value.Writes (String.ofList (render layout depth value ++ space)) := by
  have none : Spells [] space := by simpa using Spells.blanks behind .nil
  have ends : EndsWord space := by simpa using EndsWord.blanks behind (show EndsWord [] from rfl)
  simpa [Writes] using spells_render blank value depth ends none

end Render

theorem isBlank_newline : isBlank '\n' = true := rfl

/-- What is printed on one line is the text of the value. -/
theorem writes_compact (value : Json) : value.Writes (compact value) := by
  have written := writes_render Layout.blank_compact (List.forall_mem_nil _) value 0
  rwa [List.append_nil] at written

/-- A value on one line is JSON for it. -/
theorem writes_compact_line (value : Json) : value.Writes (compact value ++ "\n") := by
  have written := writes_render Layout.blank_compact (List.forall_mem_singleton.mpr isBlank_newline)
    value 0
  rwa [String.ofList_append] at written

/-- A value on a line for each item is JSON for it. -/
theorem writes_pretty_line (value : Json) : value.Writes (pretty value ++ "\n") := by
  have written := writes_render Layout.blank_pretty (List.forall_mem_singleton.mpr isBlank_newline)
    value 0
  rwa [String.ofList_append] at written

/-- The value of the field with this key, if the value is an object that has one. -/
def field? (value : Json) (key : String) : Option Json :=
  match value with
  | .obj fields => fields.lookup key
  | _ => none

end Gamebook.Json
