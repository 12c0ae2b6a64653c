import Gamebook.Proofs.History
import Gamebook.Proofs.Stops

/-!
# The scope of a failure

A failure is reported with a scope, the place in the book that the parse had
reached.  The parse finds it through its pointers into the book.  But the
directives before the position of the failure tell it as well.  The chapter is
that of the last `chapter`.  The section is that of the last `section`, if no
`chapter` comes after it.  The condition is that of the last `if`, if no `endif`
comes after it.  `scopeAt` is this scope, and it depends on nothing from the
position on (`scopeAt_congr`).

A run that can go on stands in the scope of its position (`scope_of_run`).  A
heading that waits for its title has not moved the position, so it is not part of
the scope yet.
-/

namespace Gamebook.Script

open Gamebook.Story

/-! ## Scopes by index -/

/-- The words behind the name of the directive at this index. -/
def conditionAt? (tokens : List Token) (index : Nat) : Option String :=
  tokens[index]?.map (·.reading.rest 0)

/-- The place in the book that the directives before an index tell. -/
def scopeAt (tokens : List Token) (index : Nat) : Scope where
  chapterId := (lastBefore? tokens .openChapter index).bind (firstField? tokens)
  sectionId := (currentSection? tokens index).bind (firstField? tokens)
  condition := (openIf? tokens index).bind (conditionAt? tokens)

section Congruence

variable {tokens others : List Token} {index : Nat}

theorem ledgerAt_scope (tokens : List Token) (index : Nat) :
    (ledgerAt tokens index).scope = scopeAt tokens index := by
  have condition : (branchAt? tokens index).map (·.condition) =
      (openIf? tokens index).bind (conditionAt? tokens) := by
    cases isOpen : openIf? tokens index with
    | none => rw [branchAt?_eq_none_iff.mpr isOpen]; rfl
    | some opening =>
      rw [branchAt?, isOpen, Option.bind_some, Option.map_map]
      rfl
  simp only [Ledger.scope, ledgerAt, scopeAt, condition, chapterIdAt?]

theorem lastBefore?_congr (agree : ∀ earlier < index, others[earlier]? = tokens[earlier]?)
    (keyword : Keyword) : lastBefore? others keyword index = lastBefore? tokens keyword index := by
  induction index with
  | zero => rfl
  | succ index ih =>
    have here : namesAt others keyword index = namesAt tokens keyword index := by
      rw [namesAt, agree index (Nat.lt_succ_self _), namesAt]
    rw [lastBefore?, lastBefore?, here,
      ih fun earlier below => agree earlier (Nat.lt_succ_of_lt below)]

/-- Lists that are the same before an index tell the same scope there. -/
theorem scopeAt_congr (agree : ∀ earlier < index, others[earlier]? = tokens[earlier]?) :
    scopeAt others index = scopeAt tokens index := by
  have last := lastBefore?_congr agree
  have field (earlier : Nat) (below : earlier < index) :
      firstField? others earlier = firstField? tokens earlier := by
    rw [firstField?, agree earlier below, firstField?]
  have chapters : (lastBefore? tokens .openChapter index).bind (firstField? others) =
      (lastBefore? tokens .openChapter index).bind (firstField? tokens) :=
    Option.bind_congr fun earlier found => field earlier (lt_of_lastBefore? found)
  have sections : (currentSection? tokens index).bind (firstField? others) =
      (currentSection? tokens index).bind (firstField? tokens) :=
    Option.bind_congr fun earlier found =>
      field earlier (lt_of_lastBefore? (Option.eq_some_of_filter_eq_some found))
  have conditions : (openIf? tokens index).bind (conditionAt? others) =
      (openIf? tokens index).bind (conditionAt? tokens) :=
    Option.bind_congr fun earlier found => by
      rw [conditionAt?, agree earlier (lt_of_openIf? found), conditionAt?]
  have section_eq : currentSection? others index = currentSection? tokens index := by
    simp only [currentSection?, last]
  have if_eq : openIf? others index = openIf? tokens index := by
    simp only [openIf?, last]
  rw [scopeAt, last, section_eq, if_eq, chapters, sections, conditions, scopeAt]

end Congruence

/-! ## The scope of a run -/

section Run

variable {mode : Mode} {tokens : List Token} {last : Ledger} {entries : List Entry}

/-- A move to a heading that waits for its title stays where it is. -/
theorem Ledger.Moves.of_waiting {ledger next : Ledger} {token : Token} {entry : Option Entry}
    {pending : Pending} (moves : Moves mode ledger token next entry)
    (waiting : next.pending = some pending) :
    ledger.pending = none ∧ next.scope = ledger.scope ∧ next.position = ledger.position ∧
      pending.token = token ∧ token.Opens pending.heading := by
  cases moves with
  | title => simp at waiting
  | openBook reads ready =>
    cases waiting
    exact ⟨ready, rfl, rfl, rfl, _, reads⟩
  | openChapter takes | openSection takes =>
    cases waiting
    exact ⟨takes.ready, rfl, rfl, rfl, _, takes.toReads⟩
  | paragraph isParagraph ready => cases ready.symm.trans waiting
  | _ takes => cases takes.ready.symm.trans waiting

/-- Where a title is due, the last token is the heading that it is due for. -/
theorem exists_opening_of_run {pending : Pending}
    (ran : Ledger.run mode .initial tokens = .ok (last, entries))
    (waiting : last.pending = some pending) : ∃ earlier ledger before,
      tokens = earlier ++ [pending.token] ∧ pending.token.Opens pending.heading ∧
        Ledger.run mode .initial earlier = .ok (ledger, before) ∧ ledger.pending = none ∧
        last.scope = ledger.scope ∧ last.position = ledger.position := by
  rcases List.eq_nil_or_concat tokens with rfl | ⟨earlier, opening, rfl⟩
  · cases ran
    cases waiting
  · rw [List.concat_eq_append] at ran ⊢
    obtain ⟨ledger, before, _, ranBefore, here, -⟩ := Ledger.run_append_eq_ok_iff.mp ran
    obtain ⟨next, entry, _, moves, ended, -⟩ := Ledger.run_cons_eq_ok_iff.mp here
    cases ended
    obtain ⟨ready, sameScope, samePosition, rfl, opens⟩ := moves.of_waiting waiting
    exact ⟨earlier, ledger, before, rfl, opens, ranBefore, ready, sameScope, samePosition⟩

/-- Where no title is due, the ledger of a run is that of its position. -/
theorem ledger_eq_of_run (ran : Ledger.run mode .initial tokens = .ok (last, entries))
    (ready : last.pending = none) : last = ledgerAt tokens tokens.length := by
  have goes : GoesOn mode tokens 0 := .of_run (Nat.zero_le _) rfl ran ready
  exact (Prod.mk.inj (Except.ok.inj (ran.symm.trans goes.run_eq))).1

/-- The scope of a run is that of its position. -/
theorem scope_of_run (ran : Ledger.run mode .initial tokens = .ok (last, entries)) :
    last.scope = scopeAt tokens last.position := by
  cases waiting : last.pending with
  | none =>
    rw [ledger_eq_of_run ran waiting]
    exact ledgerAt_scope tokens tokens.length
  | some pending =>
    obtain ⟨earlier, ledger, before, rfl, -, ranBefore, ready, sameScope, samePosition⟩ :=
      exists_opening_of_run ran waiting
    rw [sameScope, samePosition, ledger_eq_of_run ranBefore ready, ledgerAt_scope]
    refine (scopeAt_congr fun index below => ?_).symm
    exact List.getElem?_append_left below

theorem Stops.scope_eq {failure : Failure} (stops : Stops mode tokens failure) :
    failure.error.scope = scopeAt tokens failure.position := by
  obtain ⟨seen, rest, ledger, entries, rfl, ran, position, scope⟩ := stops.exists_read
  rw [scope, position]
  calc
    ledger.scope = scopeAt seen ledger.position := scope_of_run ran
    _ = scopeAt (seen ++ rest) ledger.position := by
      refine (scopeAt_congr fun earlier below => ?_).symm
      exact List.getElem?_append_left (Nat.lt_of_lt_of_le below (Ledger.position_le_of_run ran))

/-- The scope of a failure is told by the directives before its position, whatever
stands from there on.  So a heading that fails is not in the scope of its own failure. -/
theorem scope_of_failure {error : ParseError}
    (failed : (parse mode tokens).result = .error error) :
    error.scope = scopeAt tokens (parse mode tokens).position ∧
      ∀ others : List Token,
        (∀ earlier < (parse mode tokens).position, others[earlier]? = tokens[earlier]?) →
          error.scope = scopeAt others (parse mode tokens).position := by
  have told := (stops_of_parse failed).scope_eq
  exact ⟨told, fun others agree => told.trans (scopeAt_congr agree).symm⟩

end Run

/-- A script in which a branch goes on into the next chapter, where an item is out of
place. -/
def strayItemScript : List Token :=
  [.directive "book" 1, .paragraph "T" 2, .directive "chapter c" 3, .paragraph "C" 4,
    .directive "section s" 5, .paragraph "S" 6, .directive "if x  y" 7, .directive "chapter d" 8,
    .paragraph "D" 9, .directive "item key" 10]

/-- The item is in the second chapter and in no section of it, and the branch is still
open. -/
theorem scope_of_stray_item :
    ∃ error, (parse .lenient strayItemScript).result = .error error ∧
      (parse .lenient strayItemScript).position = 9 ∧ error.scope = ⟨some "d", none, some "x y"⟩ ∧
      scopeAt strayItemScript 9 = ⟨some "d", none, some "x y"⟩ := by
  have failed : (parse .lenient strayItemScript).result =
      .error ⟨.outOfOrder "\"item\"" "section", some (.directive "item key" 10),
        ⟨some "d", none, some "x y"⟩⟩ := rfl
  have reached : (parse .lenient strayItemScript).position = 9 := rfl
  have told := (scope_of_failure failed).1
  rw [reached] at told
  exact ⟨_, failed, reached, rfl, told.symm⟩

end Gamebook.Script
