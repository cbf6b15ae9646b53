/-
This file reads type text. The grammar has three rules: a type is a dotted name, optionally with
arguments between angle brackets, followed by any number of bracket pairs; a dotted name is
identifiers with dots between them; an argument is a type, or a question mark that may be followed
by `extends` or `super` and a type. Those two words are special only right after a question mark.

The parser is a machine that takes one token at a time and keeps the types that are still open,
innermost first. A text is refused at the first token that no type could go on with.
-/

import ValueGen.TypeExpr.Basic
import ValueGen.TypeExpr.Token

namespace ValueGen

/-- The reason why a text is not a type. -/
inductive TypeSyntaxError
  /-- The text holds no token. -/
  | empty
  /-- Something stands where nothing of its kind can stand; the offset counts bytes. -/
  | unexpected (found : String) (offset : Nat) (input : String)
  /-- The text ends within a type. -/
  | unexpectedEnd (input : String)
  deriving DecidableEq, Repr

/-- The wording of an error. -/
def TypeSyntaxError.message : TypeSyntaxError → String
  | empty => "empty type expression"
  | unexpected found offset input =>
    "unexpected `" ++ found ++ "` at offset " ++ Nat.repr offset ++ " in `" ++ input ++ "`"
  | unexpectedEnd input => "unexpected end of type expression `" ++ input ++ "`"

namespace TypeParser

/-- A type that is open while a type inside it is read. -/
inductive Frame
  /-- A generic type and its finished arguments, last first. -/
  | arguments (raw : TypeExpr) (done : List TypeExpr)
  /-- A wildcard that waits for its bound. -/
  | bound (variance : Variance)

/-- How far the innermost type has been read. -/
inductive Stage
  /-- A type has to start. -/
  | start
  /-- A name has been read up to a dot. -/
  | afterDot (name : String)
  /-- A name has been read that may go on. -/
  | afterName (name : String)
  /-- A type has been read that only bracket pairs can extend. -/
  | afterType (type : TypeExpr)
  /-- A bracket after a type has been opened. -/
  | inBrackets (type : TypeExpr)
  /-- An argument has to start. -/
  | argument
  /-- The question mark of a wildcard has been read. -/
  | afterQuestion

/-- The type that a dotted name denotes: a type variable if the scope lists the whole name. -/
def leaf (scope : List String) (name : String) : TypeExpr :=
  if scope.contains name then .typeVariable name [] else .named name

/-- Gives a finished type to the wildcards that wait for it. -/
def closeBounds (type : TypeExpr) : List Frame → TypeExpr × List Frame
  | .bound variance :: frames => closeBounds (.bounded variance type) frames
  | frames => (type, frames)

/-- Takes a token after a finished type: it goes on to the next argument or ends the arguments. -/
def afterFinished (type : TypeExpr) (frames : List Frame) (token : TypeToken) :
    Option (Stage × List Frame) :=
  match closeBounds type frames, token with
  | (last, .arguments raw done :: outer), .comma =>
    some (.argument, .arguments raw (last :: done) :: outer)
  | (last, .arguments raw done :: outer), .greater =>
    some (.afterType (.parameterized raw (last :: done).reverse), outer)
  | _, _ => none

/-- Takes a token. -/
def step (scope : List String) : Stage × List Frame → TypeToken → Option (Stage × List Frame)
  | (.start, frames), .identifier word => some (.afterName word, frames)
  | (.afterDot name, frames), .identifier word => some (.afterName (name ++ "." ++ word), frames)
  | (.afterName name, frames), .dot => some (.afterDot name, frames)
  | (.afterName name, frames), .less => some (.argument, .arguments (leaf scope name) [] :: frames)
  | (.afterName name, frames), .openBracket => some (.inBrackets (leaf scope name), frames)
  | (.afterName name, frames), token => afterFinished (leaf scope name) frames token
  | (.afterType type, frames), .openBracket => some (.inBrackets type, frames)
  | (.afterType type, frames), token => afterFinished type frames token
  | (.inBrackets type, frames), .closeBracket => some (.afterType (.array type), frames)
  | (.argument, frames), .question => some (.afterQuestion, frames)
  | (.argument, frames), .identifier word => some (.afterName word, frames)
  | (.afterQuestion, frames), .identifier "extends" => some (.start, .bound .upper :: frames)
  | (.afterQuestion, frames), .identifier "super" => some (.start, .bound .lower :: frames)
  | (.afterQuestion, frames), token => afterFinished (.unbounded .upper) frames token
  | _, _ => none

/-- The type that has been read, if nothing is open. -/
def result (scope : List String) : Stage × List Frame → Option TypeExpr
  | (.afterName name, []) => some (leaf scope name)
  | (.afterType type, []) => some type
  | _ => none

/-- Takes all tokens, up to the first one that cannot be taken. -/
def run (scope : List String) (state : Stage × List Frame) :
    List TypeLexeme → Except TypeLexeme (Stage × List Frame)
  | [] => .ok state
  | lexeme :: rest =>
    match step scope state lexeme.token with
    | some next => run scope next rest
    | none => .error lexeme

end TypeParser

/-- Reads type text; the names in scope are type variables, every other name is taken as it
stands. -/
def TypeExpr.parse (scope : List String) (text : String) : Except TypeSyntaxError TypeExpr :=
  match TypeToken.scan 0 text.toList with
  | .error (offset, char) => .error (.unexpected (String.ofList [char]) offset text)
  | .ok [] => .error .empty
  | .ok lexemes =>
    match TypeParser.run scope (.start, []) lexemes with
    | .error lexeme => .error (.unexpected lexeme.token.text lexeme.offset text)
    | .ok state =>
      match TypeParser.result scope state with
      | some type => .ok type
      | none => .error (.unexpectedEnd text)

end ValueGen
