import Gamebook.Proofs.Moves
import Gamebook.Proofs.Simulation

/-!
# Where a parse stops

A parse that fails has read some tokens without a violation.  Then it stops, and
there are five ways to do so.  There are no tokens at all.  A token violates a
rule.  A heading is followed by a directive instead of its title, or by nothing.
Or, in strict mode, a branch is still open at the end.  `Stops` has a case for
each, with the tokens that have been read and the ledger that they lead to.

A parse fails in one of these ways (`stops_of_parse`), and each of them is a
failure of a parse (`Stops.parse_eq`).  That the tokens end without a book is not
among them: the first token begins the book or violates a rule.

The position counts the tokens that are done with.  These are the tokens that have
been read, except for a heading that still waits for its title
(`Ledger.read_of_run`).
-/

namespace Gamebook.Script

open Gamebook.Story

namespace Ledger

variable {mode : Mode} {ledger next last : Ledger} {token : Token} {entry : Option Entry}
  {tokens : List Token} {entries : List Entry}

/-! ## How many tokens have been read -/

/-- The number of tokens that have been read: those done with, and a heading that
waits for its title. -/
def read (ledger : Ledger) : Nat := ledger.position + ledger.pending.toList.length

theorem read_of_ready (ready : ledger.pending = none) : ledger.read = ledger.position := by
  simp [read, ready]

theorem read_of_waiting {pending : Pending} (waiting : ledger.pending = some pending) :
    ledger.read = ledger.position + 1 := by
  simp [read, waiting]

theorem Moves.read_eq (moves : Moves mode ledger token next entry) :
    next.read = ledger.read + 1 := by
  cases moves with
  | title waiting isParagraph =>
    rw [read_of_waiting waiting, read_of_ready (entitle_pending _ _ _), entitle_position]
  | openBook reads ready =>
    rw [read_of_ready ready]
    exact read_of_waiting rfl
  | openChapter takes | openSection takes =>
    rw [read_of_ready takes.ready]
    exact read_of_waiting rfl
  | paragraph isParagraph ready =>
    rw [read_of_ready ready]
    exact read_of_ready ready
  | _ takes =>
    rw [read_of_ready takes.ready]
    exact read_of_ready takes.ready

theorem read_of_run (ran : run mode ledger tokens = .ok (last, entries)) :
    last.read = ledger.read + tokens.length := by
  induction tokens generalizing ledger entries with
  | nil =>
    cases ran
    rfl
  | cons token rest ih =>
    obtain ⟨next, entry, later, moves, onward, -⟩ := run_cons_eq_ok_iff.mp ran
    rw [ih onward, moves.read_eq, List.length_cons]
    omega

/-- Where no title is due, the tokens that have been read are done with. -/
theorem position_of_run (ran : run mode .initial tokens = .ok (last, entries))
    (ready : last.pending = none) : last.position = tokens.length := by
  calc
    last.position = last.read := (read_of_ready ready).symm
    _ = tokens.length := (read_of_run ran).trans (Nat.zero_add _)

/-- Where a title is due, all but the heading are done with. -/
theorem position_succ_of_run {pending : Pending}
    (ran : run mode .initial tokens = .ok (last, entries)) (waiting : last.pending = some pending) :
    last.position + 1 = tokens.length := by
  calc
    last.position + 1 = last.read := (read_of_waiting waiting).symm
    _ = tokens.length := (read_of_run ran).trans (Nat.zero_add _)

theorem position_le_of_run (ran : run mode .initial tokens = .ok (last, entries)) :
    last.position ≤ tokens.length := by
  cases waiting : last.pending with
  | none => exact Nat.le_of_eq (position_of_run ran waiting)
  | some pending => exact position_succ_of_run ran waiting ▸ Nat.le_succ last.position

/-! ## The first token begins the book -/

/-- The book has its title, or the title is to come. -/
def Begun (ledger : Ledger) : Prop :=
  ledger.title.isSome ∨ ∃ opening, ledger.pending = some ⟨.ofBook, opening⟩

theorem Moves.begun (moves : Moves mode ledger token next entry)
    (started : ledger.pending = none ∨ ledger.Begun) : next.Begun := by
  cases moves with
  | @title pending waiting isParagraph =>
    obtain ⟨heading, opening⟩ := pending
    rcases started with ready | titled | ⟨opening', same⟩
    · simp [waiting] at ready
    · cases heading with
      | ofBook => exact .inl rfl
      | ofChapter | ofSection => exact .inl titled
    · cases waiting.symm.trans same
      exact .inl rfl
  | openBook => exact .inr ⟨token, rfl⟩
  | paragraph isParagraph ready begun => exact .inl begun
  | _ takes => exact .inl takes.begun

theorem begun_of_run (started : ledger.pending = none ∨ ledger.Begun)
    (ran : run mode ledger tokens = .ok (last, entries)) (given : tokens ≠ []) : last.Begun := by
  induction tokens generalizing ledger entries with
  | nil => exact absurd rfl given
  | cons token rest ih =>
    obtain ⟨next, entry, later, moves, onward, -⟩ := run_cons_eq_ok_iff.mp ran
    cases rest with
    | nil =>
      cases onward
      exact moves.begun started
    | cons => exact ih (.inr (moves.begun started)) onward (List.cons_ne_nil _ _)

/-! ## Runs over two lists -/

/-- Behind tokens that are accepted, a run goes on from the ledger they lead to. -/
theorem run_append_of_ok (ran : run mode ledger tokens = .ok (next, entries))
    (rest : List Token) : run mode ledger (tokens ++ rest) =
      (run mode next rest).map fun ended => (ended.1, entries ++ ended.2) := by
  induction tokens generalizing ledger entries with
  | nil =>
    cases ran
    rw [List.nil_append]
    cases run mode next rest <;> rfl
  | cons token tokens ih =>
    obtain ⟨middle, entry, later, moves, onward, rfl⟩ := run_cons_eq_ok_iff.mp ran
    rw [List.cons_append, run_cons_of_step moves.step_eq, ih onward]
    cases run mode next rest with
    | error failure => rfl
    | ok ended => simp [Except.map]

/-- A run over two lists is a run over the first and then one over the second. -/
theorem run_append_eq_ok_iff {rest : List Token} :
    run mode ledger (tokens ++ rest) = .ok (last, entries) ↔ ∃ middle earlier later,
      run mode ledger tokens = .ok (middle, earlier) ∧ run mode middle rest = .ok (last, later) ∧
        entries = earlier ++ later := by
  constructor
  · intro ran
    induction tokens generalizing ledger entries with
    | nil => exact ⟨ledger, [], entries, rfl, ran, rfl⟩
    | cons token tokens ih =>
      obtain ⟨next, entry, others, moves, onward, rfl⟩ := run_cons_eq_ok_iff.mp ran
      obtain ⟨middle, earlier, later, first, second, rfl⟩ := ih onward
      refine ⟨middle, entry.toList ++ earlier, later, ?_, second, (List.append_assoc _ _ _).symm⟩
      exact run_cons_eq_ok_iff.mpr ⟨next, entry, earlier, moves, first, rfl⟩
  · rintro ⟨middle, earlier, later, first, second, rfl⟩
    rw [run_append_of_ok first, second]
    rfl

/-- A run that fails has accepted the tokens before the one at which it fails. -/
theorem exists_of_run_eq_error {failure : Failure}
    (failed : run mode ledger tokens = .error failure) :
    ∃ before token after middle entries cause, tokens = before ++ token :: after ∧
      run mode ledger before = .ok (middle, entries) ∧ step mode middle token = .error cause ∧
      failure = middle.failure cause token := by
  induction tokens generalizing ledger with
  | nil => cases failed
  | cons token rest ih =>
    cases stepped : step mode ledger token with
    | error cause =>
      rw [run_cons_of_error stepped] at failed
      exact ⟨[], token, rest, ledger, [], cause, rfl, rfl, stepped,
        (Except.error.inj failed).symm⟩
    | ok moved =>
      obtain ⟨next, entry⟩ := moved
      have failedLater : run mode next rest = .error failure := by
        rw [run_cons_of_step stepped] at failed
        cases ran : run mode next rest with
        | error failure' =>
          rw [ran] at failed
          exact failed
        | ok ended =>
          rw [ran] at failed
          cases failed
      obtain ⟨before, token', after, middle, entries, cause, rfl, ran, stopped, rfl⟩ :=
        ih failedLater
      refine ⟨token :: before, token', after, middle, entry.toList ++ entries, cause, rfl, ?_,
        stopped, rfl⟩
      exact run_cons_eq_ok_iff.mpr ⟨next, entry, entries, step_eq_ok_iff.mp stepped, ran, rfl⟩

/-- The token after a heading is wrong only as a directive. -/
theorem of_step_eq_error_of_waiting {pending : Pending} {cause : Cause}
    (waiting : ledger.pending = some pending) (stopped : step mode ledger token = .error cause) :
    token.kind = .directive ∧ cause = .missingTitle pending.heading.keyword := by
  cases kind : token.kind with
  | paragraph => simp [step, waiting, kind] at stopped
  | directive =>
    simp only [step, waiting, kind, Except.error.injEq] at stopped
    exact ⟨rfl, stopped.symm⟩

theorem step_of_waiting {pending : Pending} (waiting : ledger.pending = some pending)
    (isDirective : token.kind = .directive) :
    step mode ledger token = .error (.missingTitle pending.heading.keyword) := by
  simp only [step, waiting, isDirective]

end Ledger

/-! ## The ways to stop -/

/-- A parse of the tokens stops with this failure. -/
inductive Stops (mode : Mode) : List Token → Failure → Prop where
  /-- There are no tokens. -/
  | empty : Stops mode [] ⟨.ofCause .emptyInput, 0⟩
  /-- A token violates a rule. -/
  | violation {before : List Token} {ledger : Ledger} {entries : List Entry} {token : Token}
      {cause : Cause} (after : List Token)
      (ran : Ledger.run mode .initial before = .ok (ledger, entries))
      (ready : ledger.pending = none) (stopped : Ledger.step mode ledger token = .error cause) :
      Stops mode (before ++ token :: after) (ledger.failure cause token)
  /-- A directive stands in the place of a title. -/
  | untitled {before : List Token} {ledger : Ledger} {entries : List Entry} {token : Token}
      {pending : Pending} (after : List Token)
      (ran : Ledger.run mode .initial before = .ok (ledger, entries))
      (waiting : ledger.pending = some pending) (isDirective : token.kind = .directive) :
      Stops mode (before ++ token :: after)
        (ledger.failure (.missingTitle pending.heading.keyword) token)
  /-- The tokens end before a title. -/
  | titleless {tokens : List Token} {ledger : Ledger} {entries : List Entry} {pending : Pending}
      (ran : Ledger.run mode .initial tokens = .ok (ledger, entries))
      (waiting : ledger.pending = some pending) :
      Stops mode tokens (ledger.failure (.missingTitle pending.heading.keyword) pending.token)
  /-- The tokens end in a branch. -/
  | unclosed {tokens : List Token} {ledger : Ledger} {entries : List Entry} {branch : OpenBranch}
      (strict : mode = .strict) (ran : Ledger.run mode .initial tokens = .ok (ledger, entries))
      (ready : ledger.pending = none) (isOpen : ledger.branch = some branch) :
      Stops mode tokens (ledger.failure (.neverClosed branch.condition) branch.opener)

section Stops

variable {mode : Mode} {tokens : List Token} {failure : Failure} {error : ParseError}

theorem Ledger.parse_of_run_eq_error (given : tokens ≠ [])
    (failed : run mode .initial tokens = .error failure) :
    Ledger.parse mode tokens = ⟨.error failure.error, failure.position⟩ := by
  simp only [Ledger.parse, if_neg given, failed]

theorem Ledger.parse_of_run_eq_ok {last : Ledger} {entries : List Entry} (given : tokens ≠ [])
    (ran : run mode .initial tokens = .ok (last, entries))
    (failed : last.finish mode entries = .error failure) :
    Ledger.parse mode tokens = ⟨.error failure.error, failure.position⟩ := by
  simp only [Ledger.parse, if_neg given, ran, failed]

theorem ne_nil_of_run {last : Ledger} {entries : List Entry} (moved : last ≠ .initial)
    (ran : Ledger.run mode .initial tokens = .ok (last, entries)) : tokens ≠ [] := by
  rintro rfl
  cases ran
  exact moved rfl

/-- Each way to stop is a failure of the parse. -/
theorem Stops.parse_eq (stops : Stops mode tokens failure) :
    parse mode tokens = ⟨.error failure.error, failure.position⟩ := by
  rw [parse_eq_ledger_parse]
  cases stops with
  | empty => rfl
  | violation after ran ready stopped =>
    refine Ledger.parse_of_run_eq_error (by simp) ?_
    rw [Ledger.run_append_of_ok ran, Ledger.run_cons_of_error stopped]
    rfl
  | untitled after ran waiting isDirective =>
    refine Ledger.parse_of_run_eq_error (by simp) ?_
    rw [Ledger.run_append_of_ok ran,
      Ledger.run_cons_of_error (Ledger.step_of_waiting waiting isDirective)]
    rfl
  | titleless ran waiting =>
    have given := ne_nil_of_run (by rintro rfl; cases waiting) ran
    refine Ledger.parse_of_run_eq_ok given ran ?_
    simp only [Ledger.finish, waiting]
  | unclosed strict ran ready isOpen =>
    have given := ne_nil_of_run (by rintro rfl; cases isOpen) ran
    refine Ledger.parse_of_run_eq_ok given ran ?_
    simp only [Ledger.finish, strict, ready, isOpen]

/-- An end of the tokens that is a failure. -/
theorem stops_of_finish {last : Ledger} {entries : List Entry} (given : tokens ≠ [])
    (ran : Ledger.run mode .initial tokens = .ok (last, entries))
    (failed : last.finish mode entries = .error failure) : Stops mode tokens failure := by
  unfold Ledger.finish at failed
  cases waiting : last.pending with
  | some pending =>
    simp only [waiting, Except.error.injEq] at failed
    exact failed ▸ .titleless ran waiting
  | none =>
    have begun : last.title.isSome := by
      rcases Ledger.begun_of_run (.inl rfl) ran given with titled | ⟨opening, same⟩
      · exact titled
      · simp [waiting] at same
    obtain ⟨title, titled⟩ := Option.isSome_iff_exists.mp begun
    simp only [waiting, titled] at failed
    split at failed
    next branch isOpen =>
      exact Except.error.inj failed ▸ .unclosed rfl ran waiting isOpen
    next => cases failed

/-- A parse that fails stops in one of these ways. -/
theorem stops_of_parse (failed : (parse mode tokens).result = .error error) :
    Stops mode tokens ⟨error, (parse mode tokens).position⟩ := by
  by_cases given : tokens = []
  · subst given
    cases failed
    exact .empty
  · rw [parse_eq_ledger_parse] at failed ⊢
    simp only [Ledger.parse, if_neg given] at failed ⊢
    cases ran : Ledger.run mode .initial tokens with
    | error failure =>
      simp only [ran, Except.error.injEq] at failed ⊢
      subst failed
      obtain ⟨before, token, after, ledger, entries, cause, rfl, ran', stopped, rfl⟩ :=
        Ledger.exists_of_run_eq_error ran
      cases waiting : ledger.pending with
      | none => exact .violation after ran' waiting stopped
      | some pending =>
        obtain ⟨isDirective, rfl⟩ := Ledger.of_step_eq_error_of_waiting waiting stopped
        exact .untitled after ran' waiting isDirective
    | ok ended =>
      obtain ⟨last, entries⟩ := ended
      simp only [ran] at failed ⊢
      cases finished : last.finish mode entries with
      | ok book => simp [finished] at failed
      | error failure =>
        simp only [finished, Except.error.injEq] at failed ⊢
        subst failed
        exact stops_of_finish given ran finished

/-- At a failure some tokens have been read, and position and scope are those of
the ledger that they lead to. -/
theorem Stops.exists_read (stops : Stops mode tokens failure) :
    ∃ seen rest ledger entries, tokens = seen ++ rest ∧
      Ledger.run mode .initial seen = .ok (ledger, entries) ∧
      failure.position = ledger.position ∧ failure.error.scope = ledger.scope := by
  cases stops with
  | empty => exact ⟨[], [], .initial, [], rfl, rfl, rfl, rfl⟩
  | violation after ran | untitled after ran => exact ⟨_, _, _, _, rfl, ran, rfl, rfl⟩
  | titleless ran | unclosed strict ran =>
    exact ⟨_, [], _, _, (List.append_nil _).symm, ran, rfl, rfl⟩

end Stops

end Gamebook.Script
