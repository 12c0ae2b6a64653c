import Gamebook.Proofs.Modes
import Gamebook.Proofs.Rejections
import Gamebook.Proofs.Scopes

/-!
# The position of a parse and the token of its error

A parse reports how many tokens it is done with, and an error points at a token.
The position moves on in two ways, by one token or by a heading with its title, and
an error can be found at a token, at the one behind a heading, or behind all of
them.  `ParseError.PointsInto` says how the two correspond in the end.

In most cases the error points at the token at the position.  Where a title is
missing, the position is that of the heading, and the error points at what stands
in the place of the title, if there is anything.  Where a branch is not closed, the
position is the end, and the error points at the `if`.  No heading and no branch is
needed to see which it is: the last `if` of the tokens is the one that is open.

The tokens never end without a book.  The first token opens it or is an error
itself.
-/

namespace Gamebook.Script

open Gamebook.Story

/-- What the error of a parse that has come to this position says of the tokens. -/
structure ParseError.PointsInto (error : ParseError) (tokens : List Token) (position : Nat) :
    Prop where
  /-- There are tokens. -/
  given : error.kind ≠ .emptyInput
  /-- The error points at a token. -/
  pointed : error.token.isSome
  /-- Behind all tokens, it points at the last `if`, which is not closed. -/
  at_end : position = tokens.length → error.kind = .unclosedConditional ∧
    ∃ opening, lastBefore? tokens .openIf tokens.length = some opening ∧
      error.token = tokens[opening]?
  /-- Where a title is missing, the position is that of the heading.  The error
  points at the directive behind it, or at the heading if it is the last token. -/
  untitled : error.kind = .missingTitle → ∃ heading opening,
    error.cause = .missingTitle heading.keyword ∧ tokens[position]? = some opening ∧
      opening.Opens heading ∧ error.token = some (tokens[position + 1]?.getD opening) ∧
      ∀ next, tokens[position + 1]? = some next → next.kind = .directive
  /-- In all other cases it points at the token at the position. -/
  here : position ≠ tokens.length → error.kind ≠ .missingTitle → error.token = tokens[position]?
  /-- The book is missing only at the first token, and never because the tokens
  end. -/
  unbegun : error.kind = .missingBook → position = 0 ∧ error.cause ≠ .missingBook

/-- Where a parse of the tokens has come to, and what its error points at. -/
structure Outcome.Located (outcome : Outcome) (tokens : List Token) : Prop where
  /-- The position is in the tokens, or right behind them. -/
  within : outcome.position ≤ tokens.length
  /-- A book is that of all tokens. -/
  complete : ∀ book, outcome.result = .ok book → outcome.position = tokens.length
  /-- Without tokens there is nothing to point at. -/
  empty : tokens = [] → outcome = ⟨.error (.ofCause .emptyInput), 0⟩
  /-- Otherwise an error points at one of them. -/
  points : tokens ≠ [] → ∀ error, outcome.result = .error error →
    error.PointsInto tokens outcome.position

section Stops

variable {mode : Mode} {tokens : List Token} {failure : Failure}

/-- A rule that is violated for want of the book is violated by the first token. -/
theorem Ledger.eq_nil_of_unbegun {ledger : Ledger} {entries : List Entry}
    (ran : run mode .initial tokens = .ok (ledger, entries)) (ready : ledger.pending = none)
    (unbegun : ledger.title = none) : tokens = [] := by
  by_contra given
  rcases begun_of_run (.inl rfl) ran given with titled | ⟨opening, waiting⟩
  · rw [unbegun] at titled
    cases titled
  · rw [ready] at waiting
    cases waiting

/-- A heading without its title is at the position. -/
theorem ParseError.PointsInto.of_untitled {error : ParseError} {position : Nat} {heading : Heading}
    {opening : Token} (untitled : error.cause = .missingTitle heading.keyword)
    (found : tokens[position]? = some opening) (opens : opening.Opens heading)
    (pointed : error.token = some (tokens[position + 1]?.getD opening))
    (behind : ∀ next, tokens[position + 1]? = some next → next.kind = .directive) :
    error.PointsInto tokens position := by
  have kind : error.kind = .missingTitle := by
    rw [ParseError.kind, untitled]
    rfl
  have inside : position < tokens.length := (List.getElem?_eq_some_iff.mp found).1
  constructor
  · simp [kind]
  · simp [pointed]
  · intro atEnd
    omega
  · exact fun _ => ⟨heading, opening, untitled, found, opens, pointed, behind⟩
  · exact fun _ titled => absurd kind titled
  · simp [kind]

/-- Where a title is due, the heading that it is due for is at the position, and
nothing is behind it. -/
theorem heading_of_run {ledger : Ledger} {entries : List Entry} {pending : Pending}
    (ran : Ledger.run mode .initial tokens = .ok (ledger, entries))
    (waiting : ledger.pending = some pending) :
    pending.token.Opens pending.heading ∧ tokens[ledger.position]? = some pending.token ∧
      tokens.length = ledger.position + 1 := by
  obtain ⟨earlier, _, _, rfl, opens, ranBefore, ready, -, samePosition⟩ :=
    exists_opening_of_run ran waiting
  have position : ledger.position = earlier.length :=
    samePosition.trans (Ledger.position_of_run ranBefore ready)
  refine ⟨opens, ?_, ?_⟩
  · rw [position, List.getElem?_append_right le_rfl]
    simp
  · simp [position]

theorem Stops.pointsInto (stops : Stops mode tokens failure) (given : tokens ≠ []) :
    failure.error.PointsInto tokens failure.position := by
  cases stops with
  | empty => exact absurd rfl given
  | @violation before ledger entries token cause after ran ready stopped =>
    have position : ledger.position = before.length := Ledger.position_of_run ran ready
    have rejects := Ledger.rejects_of_step ready stopped
    obtain ⟨notEmpty, titled⟩ := Cause.kind_of_isOfToken rejects.isOfToken
    have found : (before ++ token :: after)[ledger.position]? = some token := by simp [position]
    have inside : ledger.position ≠ (before ++ token :: after).length := by simp [position]
    constructor
    · exact notEmpty
    · rfl
    · exact fun atEnd => absurd atEnd inside
    · exact fun untitled => absurd untitled titled
    · exact fun _ _ => found.symm
    · intro noBook
      have first := Ledger.eq_nil_of_unbegun ran ready (rejects.unbegun noBook)
      rw [first] at position
      refine ⟨position, ?_⟩
      intro same
      have ofToken := rejects.isOfToken
      rw [show cause = .missingBook from same] at ofToken
      cases ofToken
  | @untitled before ledger entries token pending after ran waiting isDirective =>
    obtain ⟨opens, found, length⟩ := heading_of_run ran waiting
    have heading : (before ++ token :: after)[ledger.position]? = some pending.token := by
      rw [List.getElem?_append_left (by omega), found]
    have next : (before ++ token :: after)[ledger.position + 1]? = some token := by
      simp [← length]
    have pointed : some token =
        some ((before ++ token :: after)[ledger.position + 1]?.getD pending.token) := by
      rw [next]
      rfl
    refine .of_untitled rfl heading opens pointed ?_
    intro other behind
    obtain rfl := Option.some.inj (next.symm.trans behind)
    exact isDirective
  | @titleless _ ledger _ pending ran waiting =>
    obtain ⟨opens, heading, length⟩ := heading_of_run ran waiting
    have next : tokens[ledger.position + 1]? = none := by simp [← length]
    have pointed : some pending.token =
        some (tokens[ledger.position + 1]?.getD pending.token) := by
      rw [next]
      rfl
    refine .of_untitled rfl heading opens pointed ?_
    intro other behind
    cases next.symm.trans behind
  | @unclosed _ ledger entries branch strict ran ready isOpen =>
    have position : ledger.position = tokens.length := Ledger.position_of_run ran ready
    have opened : branchAt? tokens tokens.length = some branch := by
      rw [ledger_eq_of_run ran ready] at isOpen
      exact isOpen
    obtain ⟨opening, isOpen, found, -⟩ := of_branchAt?_eq_some opened
    have last := (Option.filter_eq_some_iff.mp isOpen).1
    constructor
    · nofun
    · rfl
    · exact fun _ => ⟨rfl, opening, last, found.symm⟩
    · nofun
    · exact fun inside => absurd position inside
    · nofun

end Stops

/-- A book is that of all tokens. -/
theorem position_of_book {mode : Mode} {tokens : List Token} {book : Book}
    (parsed : (parse mode tokens).result = .ok book) :
    (parse mode tokens).position = tokens.length := by
  have given : tokens ≠ [] := by
    rintro rfl
    cases parsed
  rw [parse_eq_ledger_parse] at parsed ⊢
  obtain ⟨last, entries, title, ran, settled, -⟩ := Ledger.parse_eq_ok_iff.mp parsed
  rw [Ledger.position_parse mode given, ran]
  exact Ledger.position_of_run ran settled

/-- Wherever a parse stops, its position and its error fit the tokens. -/
theorem located_of_parse (mode : Mode) (tokens : List Token) :
    (parse mode tokens).Located tokens where
  within := by
    cases ended : (parse mode tokens).result with
    | ok book => exact Nat.le_of_eq (position_of_book ended)
    | error error =>
      obtain ⟨seen, rest, ledger, entries, rfl, ran, position, -⟩ :=
        (stops_of_parse ended).exists_read
      have within : ledger.position ≤ seen.length := Ledger.position_le_of_run ran
      have reached : (parse mode (seen ++ rest)).position = ledger.position := position
      rw [reached, List.length_append]
      omega
  complete := fun _ parsed => position_of_book parsed
  empty := by
    rintro rfl
    rfl
  points := fun given _ failed => (stops_of_parse failed).pointsInto given

end Gamebook.Script
