import Gamebook.Proofs.Rejections
import Gamebook.Proofs.Rendering
import Gamebook.Proofs.Stops

/-!
# Failures and the tokens they depend on

A failure is reported as early as it can be, and it depends on nothing behind the
token that is wrong.

The tokens before the position of a failure are the beginning of a script.
Whatever ledger they lead to, a title, a book and the end of a branch bring it to
a good end, as far as they are missing (`Ledger.exists_completion`).  If a parse
fails only because the tokens end, all of them are such a beginning.

Otherwise the failure is that of a token, which is at the position or right
behind it where a title is due.  Every other list of tokens that is the same up to
there stops in the same way (`Stops.of_agree`).
-/

namespace Gamebook.Script

open Gamebook.Story

/-! ## Completions -/

/-- The directive with this keyword and nothing else. -/
def Keyword.alone (keyword : Keyword) : Token := (Passage.command keyword []).token

theorem Keyword.reads_alone (keyword : Keyword) : keyword.alone.Reads keyword [] :=
  Token.reads_of_passage (by simp) rfl

namespace Ledger

variable {mode : Mode} {ledger next last : Ledger} {token : Token} {entry : Option Entry}

/-- Some tokens lead from this ledger to the other one. -/
def LeadsTo (mode : Mode) (ledger last : Ledger) : Prop :=
  ∃ tokens entries, run mode ledger tokens = .ok (last, entries)

theorem LeadsTo.refl : ledger.LeadsTo mode ledger := ⟨[], [], rfl⟩

theorem LeadsTo.cons (moves : Moves mode ledger token next entry)
    (later : next.LeadsTo mode last) : ledger.LeadsTo mode last := by
  obtain ⟨tokens, entries, ran⟩ := later
  exact ⟨token :: tokens, _, run_cons_eq_ok_iff.mpr ⟨next, entry, entries, moves, ran, rfl⟩⟩

/-- Nothing is missing at the end of the book. -/
structure Ended (ledger : Ledger) : Prop where
  /-- No title is due. -/
  ready : ledger.pending = none
  /-- No branch is open. -/
  closed : ledger.branch = none
  /-- The book has its title. -/
  begun : ledger.title.isSome

/-- An open branch can be closed. -/
theorem exists_closed (mode : Mode) (ready : ledger.pending = none) (begun : ledger.title.isSome) :
    ∃ last, ledger.LeadsTo mode last ∧ last.Ended := by
  cases isOpen : ledger.branch with
  | none => exact ⟨ledger, .refl, ⟨ready, isOpen, begun⟩⟩
  | some branch =>
    have moves : Moves mode ledger Keyword.closeIf.alone _ _ :=
      .closeIf ⟨Keyword.reads_alone .closeIf, ready, begun⟩ (by simp [isOpen])
    exact ⟨_, .cons moves .refl, ⟨ready, rfl, begun⟩⟩

/-- A book can be begun where there is none. -/
theorem exists_begun (mode : Mode) (ready : ledger.pending = none) :
    ∃ last, ledger.LeadsTo mode last ∧ last.Ended := by
  cases begun : ledger.title with
  | some title => exact exists_closed mode ready (by simp [begun])
  | none =>
    have first : Moves mode ledger Keyword.openBook.alone _ _ :=
      .openBook (Keyword.reads_alone .openBook) ready begun
    have second : Moves mode (ledger.await .ofBook Keyword.openBook.alone)
        (Passage.paragraph "").token _ _ := .title rfl rfl
    have titled :
        ((ledger.await .ofBook Keyword.openBook.alone).entitle .ofBook "").1.pending = none := rfl
    obtain ⟨last, leads, ended⟩ := exists_closed mode titled rfl
    exact ⟨last, .cons first (.cons second leads), ended⟩

/-- Every ledger can be brought to a good end. -/
theorem exists_completion (mode : Mode) (ledger : Ledger) :
    ∃ last, ledger.LeadsTo mode last ∧ last.Ended := by
  cases waiting : ledger.pending with
  | none => exact exists_begun mode waiting
  | some pending =>
    have moves : Moves mode ledger (Passage.paragraph "").token _ _ := .title waiting rfl
    obtain ⟨last, leads, ended⟩ := exists_begun mode
      (ledger.entitle_pending pending.heading (Passage.paragraph "").token.text)
    exact ⟨last, .cons moves leads, ended⟩

end Ledger

/-- More tokens make a script of these. -/
def IsBeginning (mode : Mode) (tokens : List Token) : Prop :=
  ∃ more book, (parse mode (tokens ++ more)).result = .ok book

theorem isBeginning_of_run {mode : Mode} {tokens : List Token} {ledger : Ledger}
    {entries : List Entry} (ran : Ledger.run mode .initial tokens = .ok (ledger, entries)) :
    IsBeginning mode tokens := by
  obtain ⟨last, ⟨more, later, onward⟩, ended⟩ := ledger.exists_completion mode
  obtain ⟨title, titled⟩ := Option.isSome_iff_exists.mp ended.begun
  have whole := Ledger.run_append_eq_ok_iff.mpr ⟨ledger, entries, later, ran, onward, rfl⟩
  refine ⟨more, bookOfEntries title (entries ++ later), ?_⟩
  rw [parse_eq_ledger_parse, Ledger.parse_eq_ok_iff]
  exact ⟨last, entries ++ later, title, whole, ended.ready, fun _ => ended.closed, titled, rfl⟩

/-! ## Failures -/

/-- The failure is that the tokens end. -/
def AtEnd (tokens : List Token) (error : ParseError) (position : Nat) : Prop :=
  error.kind = .emptyInput ∨
    error.kind = .missingTitle ∧ tokens[position + 1]? = none ∨
    error.kind = .unclosedConditional ∧ position = tokens.length

/-- The index of the token that is wrong.  It is the position or, where a title is
due, the next one. -/
def wrongAt (error : ParseError) (position : Nat) : Nat :=
  if error.kind = .missingTitle then position + 1 else position

theorem wrongAt_of_isOfToken {error : ParseError} (ofToken : error.cause.isOfToken = true)
    (position : Nat) : wrongAt error position = position :=
  if_neg (Cause.kind_of_isOfToken ofToken).2

/-- A list that is the same up to a token has the same tokens before it, and that
token. -/
theorem exists_of_agree {before after others : List Token} {token : Token}
    (agree : ∀ index ≤ before.length, others[index]? = (before ++ token :: after)[index]?) :
    ∃ rest, others = before ++ token :: rest := by
  have same : others.take (before.length + 1) =
      (before ++ token :: after).take (before.length + 1) := by
    refine List.ext_getElem? fun index => ?_
    simp only [List.getElem?_take]
    split
    next within => exact agree index (Nat.le_of_lt_succ within)
    next => rfl
  refine ⟨others.drop (before.length + 1), ?_⟩
  calc
    others = others.take (before.length + 1) ++ others.drop (before.length + 1) :=
      (List.take_append_drop _ _).symm
    _ = before ++ token :: others.drop (before.length + 1) := by
      rw [same, List.take_append, List.take_of_length_le (by omega)]
      simp

section Failures

variable {mode : Mode} {tokens : List Token} {failure : Failure}

/-- The tokens before a failure are the beginning of a script. -/
theorem Stops.isBeginning_take (stops : Stops mode tokens failure) :
    IsBeginning mode (tokens.take failure.position) := by
  obtain ⟨seen, rest, ledger, entries, rfl, ran, position, -⟩ := stops.exists_read
  have within : failure.position ≤ seen.length := position ▸ Ledger.position_le_of_run ran
  rw [List.take_append_of_le_length within]
  rw [← List.take_append_drop failure.position seen] at ran
  obtain ⟨middle, earlier, later, taken, -⟩ := Ledger.run_append_eq_ok_iff.mp ran
  exact isBeginning_of_run taken

/-- If the tokens only end too early, they are the beginning of a script. -/
theorem Stops.isBeginning_of_atEnd (stops : Stops mode tokens failure)
    (atEnd : AtEnd tokens failure.error failure.position) : IsBeginning mode tokens := by
  cases stops with
  | empty =>
    have ran : Ledger.run mode .initial [] = .ok (.initial, []) := rfl
    exact isBeginning_of_run ran
  | violation after ran ready stopped =>
    exfalso
    obtain ⟨notEmpty, notTitle⟩ := Cause.kind_of_isOfToken (Ledger.isOfToken_of_step ready stopped)
    rcases atEnd with empty | ⟨untitled, -⟩ | ⟨-, beyond⟩
    · exact notEmpty empty
    · exact notTitle untitled
    · simp [Ledger.failure, Ledger.position_of_run ran ready] at beyond
  | untitled after ran waiting isDirective =>
    exfalso
    rcases atEnd with empty | ⟨-, missing⟩ | ⟨unclosed, -⟩
    · cases empty
    · simp [Ledger.failure, Ledger.position_succ_of_run ran waiting] at missing
    · cases unclosed
  | titleless ran => exact isBeginning_of_run ran
  | unclosed strict ran => exact isBeginning_of_run ran

/-- Tokens that are the same up to the one that is wrong stop in the same way. -/
theorem Stops.of_agree (stops : Stops mode tokens failure)
    (inside : ¬ AtEnd tokens failure.error failure.position) :
    wrongAt failure.error failure.position < tokens.length ∧
      ∀ others : List Token,
        (∀ index ≤ wrongAt failure.error failure.position, others[index]? = tokens[index]?) →
          Stops mode others failure := by
  cases stops with
  | empty => exact absurd (.inl rfl) inside
  | @violation before ledger entries token cause after ran ready stopped =>
    have wrong : wrongAt (ledger.failure cause token).error (ledger.failure cause token).position =
        before.length := by
      rw [wrongAt_of_isOfToken (Ledger.isOfToken_of_step ready stopped)]
      exact Ledger.position_of_run ran ready
    rw [wrong]
    refine ⟨by simp, fun others agree => ?_⟩
    obtain ⟨rest, rfl⟩ := exists_of_agree agree
    exact .violation rest ran ready stopped
  | @untitled before ledger entries token pending after ran waiting isDirective =>
    have wrong : wrongAt (ledger.failure (.missingTitle pending.heading.keyword) token).error
        (ledger.failure (.missingTitle pending.heading.keyword) token).position = before.length :=
      (if_pos rfl).trans (Ledger.position_succ_of_run ran waiting)
    rw [wrong]
    refine ⟨by simp, fun others agree => ?_⟩
    obtain ⟨rest, rfl⟩ := exists_of_agree agree
    exact .untitled rest ran waiting isDirective
  | titleless ran waiting =>
    refine absurd (.inr (.inl ⟨rfl, List.getElem?_eq_none ?_⟩)) inside
    exact Nat.le_of_eq (Ledger.position_succ_of_run ran waiting).symm
  | unclosed strict ran ready isOpen =>
    exact absurd (.inr (.inr ⟨rfl, Ledger.position_of_run ran ready⟩)) inside

/-- A parse stops at the first violation.  The tokens before its position are the
beginning of a script.  If the tokens only end too early, so are all of them.  And
otherwise the failure depends on nothing behind the token that is wrong: whatever
is the same up to there fails with the same error at the same position. -/
theorem failure_at_first_violation {mode : Mode} {tokens : List Token} {error : ParseError}
    (failed : (parse mode tokens).result = .error error) :
    IsBeginning mode (tokens.take (parse mode tokens).position) ∧
      (¬ AtEnd tokens error (parse mode tokens).position →
        wrongAt error (parse mode tokens).position < tokens.length ∧
          ∀ others : List Token, (∀ index ≤ wrongAt error (parse mode tokens).position,
              others[index]? = tokens[index]?) →
            (parse mode others).result = .error error ∧
              (parse mode others).position = (parse mode tokens).position) ∧
      (AtEnd tokens error (parse mode tokens).position → IsBeginning mode tokens) := by
  have stops := stops_of_parse failed
  refine ⟨stops.isBeginning_take, fun inside => ?_, stops.isBeginning_of_atEnd⟩
  obtain ⟨within, stopsAlike⟩ := stops.of_agree inside
  refine ⟨within, fun others agree => ?_⟩
  rw [(stopsAlike others agree).parse_eq]
  exact ⟨rfl, rfl⟩

end Failures

/-- A script with a chapter that has no title. -/
def untitledScript : List Token :=
  [.directive "book" 1, .paragraph "T" 2, .directive "chapter c" 3, .directive "section s" 4,
    .paragraph "S" 5]

/-- The failure is that of the chapter, and the section behind it is wrong. -/
theorem failure_at_untitled_chapter :
    ∃ error, (parse .strict untitledScript).result = .error error ∧
      (parse .strict untitledScript).position = 2 ∧ ¬ AtEnd untitledScript error 2 ∧
      wrongAt error 2 = 3 ∧ IsBeginning .strict (untitledScript.take 2) ∧
      ∀ others : List Token, (∀ index ≤ 3, others[index]? = untitledScript[index]?) →
        (parse .strict others).result = .error error ∧ (parse .strict others).position = 2 := by
  have failed : (parse .strict untitledScript).result =
      .error ⟨.missingTitle .openChapter, some (.directive "section s" 4), .empty⟩ := rfl
  have reached : (parse .strict untitledScript).position = 2 := rfl
  obtain ⟨beginning, stopsAlike, -⟩ := failure_at_first_violation failed
  rw [reached] at beginning stopsAlike
  have inside : ¬ AtEnd untitledScript
      ⟨.missingTitle .openChapter, some (.directive "section s" 4), .empty⟩ 2 := by
    rintro (empty | ⟨-, missing⟩ | ⟨unclosed, -⟩)
    · cases empty
    · cases missing
    · cases unclosed
  exact ⟨_, failed, reached, inside, rfl, beginning, (stopsAlike inside).2⟩

end Gamebook.Script
