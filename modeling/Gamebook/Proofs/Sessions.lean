import Gamebook.Script.Session
import Mathlib.Data.List.Basic

/-!
# What a parser remembers

A parser is used again and again, and each parse leaves it at the position where it
has stopped: behind the tokens, at a token that violates a rule, or at a heading
without its title.  A parse would go on from there, but it rewinds the parser first,
even if there is nothing to parse.  So of all that a parser has done, nothing but the
last request for a mode tells in what it does next.

`Session.after` is a session behind some requests.  Its mode is that of the last
request for one (`Session.after_mode`), and an answer is that of the session behind
the requests before (`Session.getElem?_answers`).
-/

namespace Gamebook.Script

open Gamebook.Story

/-! ## Requests -/

namespace Request

/-- The mode that is asked for, if it is a request for one. -/
def mode? : Request → Option Mode
  | .setMode mode => some mode
  | .rewind | .copy | .parse _ | .parseText _ => none

/-- The tokens that are to be parsed, if it is a request for a parse. -/
def tokens? : Request → Option (List Token)
  | .parse tokens => some tokens
  | .parseText script => some (tokens .standard script)
  | .setMode _ | .rewind | .copy => none

end Request

/-- The mode that is asked for last, or else the strict one. -/
def lastMode (requests : List Request) : Mode :=
  (requests.filterMap (·.mode?)).getLast?.getD .strict

/-! ## Parsers -/

namespace Parser

variable {request : Request} {tokens : List Token}

/-- A parser in this mode that has not parsed anything. -/
def fresh (mode : Mode) : Parser := ⟨mode, 0⟩

theorem resume_mode (parser : Parser) (tokens : List Token) :
    (parser.resume tokens).1.mode = parser.mode := by
  unfold resume
  simp only
  split
  · rfl
  · split <;> rfl

theorem parse_mode (parser : Parser) (tokens : List Token) :
    (parser.parse tokens).1.mode = parser.mode := by
  unfold parse
  simp only
  split
  · rfl
  · exact resume_mode _ tokens

/-- A parser that has been rewound is as good as new. -/
theorem parse_eq_fresh (parser : Parser) (tokens : List Token) :
    parser.parse tokens = (fresh parser.mode).parse tokens := rfl

/-- A parser comes to the outcome of the tokens in its mode. -/
theorem parse_eq_outcome (parser : Parser) (tokens : List Token) :
    parser.parse tokens =
      ({ parser with position := (Script.parse parser.mode tokens).position },
        (Script.parse parser.mode tokens).result) := by
  by_cases given : tokens = []
  · simp only [parse, Script.parse, if_pos given]
    rfl
  · have start : { State.initial with position := 0 } = State.initial := rfl
    simp only [parse, Script.parse, if_neg given, resume, rewind, List.drop_zero, start]
    cases run parser.mode .initial tokens with
    | error failure => rfl
    | ok state =>
      simp only
      cases finish parser.mode state <;> rfl

theorem perform_mode (parser : Parser) (request : Request) :
    (parser.perform request).1.mode = request.mode?.getD parser.mode := by
  cases request with
  | parse tokens => exact parse_mode parser tokens
  | parseText script => exact parse_mode parser (tokens .standard script)
  | setMode mode | rewind | copy => rfl

theorem perform_of_tokens (parser : Parser) (parses : request.tokens? = some tokens) :
    parser.perform request = ((parser.parse tokens).1, some (parser.parse tokens).2) := by
  cases request with
  | parse given | parseText script =>
    cases parses
    rfl
  | setMode mode | rewind | copy => cases parses

end Parser

/-! ## Sessions -/

theorem sameResult_self (result : Except ParseError Book) : sameResult result result = true := by
  cases result <;> simp [sameResult, ParseError.sameReport]

namespace Session

variable {request : Request} {tokens : List Token}

/-- The session behind the requests. -/
def after (session : Session) (requests : List Request) : Session :=
  requests.foldl (fun session request => (session.answer request).1) session

theorem parser_answer (session : Session) (request : Request) :
    (session.answer request).1.parser = (session.parser.perform request).1 := by
  rw [answer]
  split <;> simp [*]

/-- An answer to a request for a parse, and the session behind it. -/
theorem answer_of_tokens (session : Session) (parses : request.tokens? = some tokens) :
    session.answer request =
      (⟨(session.parser.parse tokens).1, some (session.parser.parse tokens).2⟩,
        ⟨(session.parser.parse tokens).1.position,
          some ((session.parser.parse tokens).2,
            session.last.map (sameResult · (session.parser.parse tokens).2))⟩) := by
  rw [answer, session.parser.perform_of_tokens parses]

theorem after_mode (session : Session) (requests : List Request) :
    (session.after requests).parser.mode =
      (requests.filterMap (·.mode?)).getLast?.getD session.parser.mode := by
  induction requests generalizing session with
  | nil => rfl
  | cons request requests ih =>
    have next : (session.after (request :: requests)).parser.mode =
        ((session.answer request).1.after requests).parser.mode := rfl
    rw [next, ih, parser_answer, Parser.perform_mode]
    cases asked : request.mode? with
    | none => simp [asked]
    | some mode =>
      simp only [List.filterMap_cons, asked, List.getLast?_cons, Option.getD_some]

theorem getElem?_answers (session : Session) (requests : List Request) (index : Nat) :
    (session.answers requests)[index]? =
      requests[index]?.map fun request =>
        ((session.after (requests.take index)).answer request).2 := by
  induction requests generalizing session index with
  | nil => rfl
  | cons request requests ih =>
    cases index with
    | zero => rfl
    | succ index => exact ih (session.answer request).1 index

theorem after_take_succ {requests : List Request} {index : Nat} (session : Session)
    (asked : requests[index]? = some request) :
    session.after (requests.take (index + 1)) =
      ((session.after (requests.take index)).answer request).1 := by
  rw [List.take_add_one, asked, after, List.foldl_append]
  rfl

section Answers

variable {requests : List Request} {index : Nat} (session : Session)

/-- What is answered to a request for a parse, where only the result before it and the
mode depend on the requests before. -/
theorem answers_of_tokens (asked : requests[index]? = some request)
    (parses : request.tokens? = some tokens) {mode : Mode}
    (inMode : (session.after (requests.take index)).parser.mode = mode) :
    (session.answers requests)[index]? =
      some ⟨((Parser.fresh mode).parse tokens).1.position,
        some (((Parser.fresh mode).parse tokens).2,
          (session.after (requests.take index)).last.map
            (sameResult · ((Parser.fresh mode).parse tokens).2))⟩ := by
  rw [getElem?_answers, asked, Option.map_some, answer_of_tokens _ parses, Parser.parse_eq_fresh,
    inMode]

/-- What is answered if the same parse is asked for twice in a row. -/
theorem answers_again (asked : requests[index]? = some request)
    (again : requests[index + 1]? = some request) (parses : request.tokens? = some tokens)
    {mode : Mode} (inMode : (session.after (requests.take index)).parser.mode = mode) :
    (session.answers requests)[index + 1]? =
      some ⟨((Parser.fresh mode).parse tokens).1.position,
        some (((Parser.fresh mode).parse tokens).2, some true)⟩ := by
  have parsed := (session.after (requests.take index)).answer_of_tokens parses
  rw [Parser.parse_eq_fresh, inMode] at parsed
  have sameMode : (session.after (requests.take (index + 1))).parser.mode = mode := by
    rw [session.after_take_succ asked, parsed]
    exact Parser.parse_mode _ tokens
  rw [session.answers_of_tokens again parses sameMode, session.after_take_succ asked, parsed]
  simp only [Option.map_some, sameResult_self]

end Answers

end Session

/-- A parser that starts out strict is always in the mode that it was last asked for.
Whatever has been done with it before, a parse has the outcome of the tokens in that
mode, as it has with a fresh parser, and leaves the parser at the same position.  The
same parse once more gives the same again. -/
theorem session_remembers_mode (requests : List Request) :
    (Session.initial.after requests).parser.mode = lastMode requests ∧
      ∀ index request tokens, requests[index]? = some request → request.tokens? = some tokens →
        ∃ ended result same,
          (Parser.fresh (lastMode (requests.take index))).parse tokens = (ended, result) ∧
          parse (lastMode (requests.take index)) tokens = ⟨result, ended.position⟩ ∧
          (Session.initial.answers requests)[index]? =
            some ⟨ended.position, some (result, same)⟩ ∧
          (requests[index + 1]? = some request →
            (Session.initial.answers requests)[index + 1]? =
              some ⟨ended.position, some (result, some true)⟩) := by
  refine ⟨Session.after_mode .initial requests, ?_⟩
  intro index request tokens asked parses
  have inMode : (Session.initial.after (requests.take index)).parser.mode =
      lastMode (requests.take index) := Session.after_mode .initial _
  have first := Session.initial.answers_of_tokens asked parses inMode
  refine ⟨_, _, _, (Prod.eta _).symm, ?_, first, fun again => ?_⟩
  · rw [Parser.parse_eq_outcome]
    rfl
  · exact Session.initial.answers_again asked again parses inMode

/-- A script that ends in an open branch. -/
def openEndedScript : List Token :=
  [.directive "book" 1, .paragraph "B" 2, .directive "chapter c" 3, .paragraph "C" 4,
    .directive "section s" 5, .paragraph "S" 6, .directive "if x" 7]

/-- A parser that fails at a heading, is set to the lenient mode and back, and copied. -/
def wornParser : List Request :=
  [.parse [.directive "book" 1], .setMode .lenient, .parse openEndedScript, .copy,
    .setMode .strict, .parse openEndedScript, .parse openEndedScript, .rewind, .parse []]

/-- The script that was fine in the lenient mode fails in the strict one, and fails the
same once more. -/
theorem worn_parser_is_strict :
    ∃ error same, error.cause = .neverClosed "x" ∧
      (Session.initial.answers wornParser)[5]? = some ⟨7, some (.error error, same)⟩ ∧
      (Session.initial.answers wornParser)[6]? = some ⟨7, some (.error error, some true)⟩ := by
  obtain ⟨ended, result, same, ran, -, first, again⟩ :=
    (session_remembers_mode wornParser).2 5 _ _ rfl rfl
  have failed : (Parser.fresh .strict).parse openEndedScript =
      (⟨.strict, 7⟩, .error ⟨.neverClosed "x", some (.directive "if x" 7),
        ⟨some "c", some "s", some "x"⟩⟩) := rfl
  obtain ⟨rfl, rfl⟩ := Prod.mk.inj (ran.symm.trans failed)
  exact ⟨_, same, rfl, first, again rfl⟩

end Gamebook.Script
