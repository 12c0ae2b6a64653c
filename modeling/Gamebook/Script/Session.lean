import Gamebook.Script.Parse

/-!
# Parsers that are used again

A *parser* is a mode and the position at which its last parse stopped.  A
*request* changes one of them or parses something.  A parse goes on from where
the parser stands, so the parser is rewound before it.

A *session* is a parser together with its last result.  It tells for each parse
whether the result is the same as the one before.
-/

namespace Gamebook.Script

open Gamebook.Story

/-! ## Parsers -/

/-- Something that parses scripts one after the other. -/
structure Parser where
  /-- How open branches are treated. -/
  mode : Mode
  /-- How far the last parse came. -/
  position : Nat
  deriving DecidableEq, Repr

/-- What a parser can be asked for. -/
inductive Request where
  /-- Treat open branches so from now on. -/
  | setMode (mode : Mode)
  /-- Go back to the start. -/
  | rewind
  /-- Go on with a copy of the parser. -/
  | copy
  /-- Parse tokens. -/
  | parse (tokens : List Token)
  /-- Parse a script with the standard marker. -/
  | parseText (script : String)
  deriving DecidableEq, Repr

namespace Parser

/-- A strict parser at the start. -/
def initial : Parser := ⟨.strict, 0⟩

/-- Goes back to the start. -/
def rewind (parser : Parser) : Parser := { parser with position := 0 }

/-- Goes through the tokens from where the parser stands, without a book yet.  The
parser comes to stand where the tokens end or a rule is violated. -/
def resume (parser : Parser) (tokens : List Token) : Parser × Except ParseError Book :=
  let start := { State.initial with position := parser.position }
  match run parser.mode start (tokens.drop parser.position) with
  | .error failure => ({ parser with position := failure.position }, .error failure.error)
  | .ok state =>
    match finish parser.mode state with
    | .error failure => ({ parser with position := failure.position }, .error failure.error)
    | .ok book => ({ parser with position := state.position }, .ok book)

/-- Parses the tokens from the first one on. -/
def parse (parser : Parser) (tokens : List Token) : Parser × Except ParseError Book :=
  let parser := parser.rewind
  if tokens = [] then (parser, .error (.ofCause .emptyInput)) else parser.resume tokens

/-- Does what is asked for.  There is a result if something was parsed. -/
def perform (parser : Parser) : Request → Parser × Option (Except ParseError Book)
  | .setMode mode => ({ parser with mode := mode }, none)
  | .rewind => (parser.rewind, none)
  | .copy => (parser, none)
  | .parse tokens =>
    let (parser, result) := parser.parse tokens
    (parser, some result)
  | .parseText script =>
    let (parser, result) := parser.parse (tokens .standard script)
    (parser, some result)

end Parser

/-! ## Sessions -/

/-- Two results that a reader cannot tell apart. -/
def sameResult : Except ParseError Book → Except ParseError Book → Bool
  | .ok first, .ok second => first = second
  | .error first, .error second => first.sameReport second
  | _, _ => false

/-- A parser with its last result. -/
structure Session where
  /-- The parser. -/
  parser : Parser
  /-- What it parsed last. -/
  last : Option (Except ParseError Book)

/-- The answer to a request. -/
structure Answer where
  /-- The position of the parser. -/
  position : Nat
  /-- What was parsed, and whether the result is the one before, if there was one. -/
  report : Option (Except ParseError Book × Option Bool)

namespace Session

/-- A session with a parser at the start. -/
def initial : Session := ⟨.initial, none⟩

/-- Answers one request. -/
def answer (session : Session) (request : Request) : Session × Answer :=
  match session.parser.perform request with
  | (parser, none) => (⟨parser, session.last⟩, ⟨parser.position, none⟩)
  | (parser, some result) =>
    (⟨parser, some result⟩,
      ⟨parser.position, some (result, session.last.map (sameResult · result))⟩)

/-- Answers the requests in order. -/
def answers (session : Session) : List Request → List Answer
  | [] => []
  | request :: rest =>
    let (session, answer) := session.answer request
    answer :: session.answers rest

end Session

end Gamebook.Script
