/-
This file splits type text into tokens: identifiers, each as long as possible, and seven marks.
White space separates and is dropped. A token keeps the byte offset at which it starts, because
errors point at it; any other character is an error at its own offset.
-/

import ValueGen.Text.Alphabetic
import ValueGen.Text.Character

namespace ValueGen

/-- A token of type text. -/
inductive TypeToken
  | identifier (text : String)
  | less
  | greater
  | comma
  | question
  | openBracket
  | closeBracket
  | dot
  deriving DecidableEq, Repr

/-- A token and the byte offset of its first character. -/
structure TypeLexeme where
  offset : Nat
  token : TypeToken
  deriving DecidableEq, Repr

namespace TypeToken

/-- The text that the token stands for. -/
def text : TypeToken → String
  | identifier text => text
  | less => "<"
  | greater => ">"
  | comma => ","
  | question => "?"
  | openBracket => "["
  | closeBracket => "]"
  | dot => "."

/-- The token that is a single character. -/
def mark? : Char → Option TypeToken
  | '<' => some less
  | '>' => some greater
  | ',' => some comma
  | '?' => some question
  | '[' => some openBracket
  | ']' => some closeBracket
  | '.' => some dot
  | _ => none

/-- Whether an identifier may start with the character. -/
def startsIdentifier (char : Char) : Bool :=
  Text.isAlphabetic char || char = '_' || char = '$'

/-- Whether an identifier may go on with the character. -/
def continuesIdentifier (char : Char) : Bool :=
  Text.isAlphabetic char || Text.isNumeric char || char = '_' || char = '$'

/-- The number of bytes that some characters take up. -/
def byteLength : List Char → Nat
  | [] => 0
  | char :: rest => char.utf8Size + byteLength rest

/-- The tokens of a text that starts at a byte offset, or the first character that belongs to no
token, with its offset. -/
def scan (offset : Nat) : List Char → Except (Nat × Char) (List TypeLexeme)
  | [] => .ok []
  | char :: rest =>
    if Text.isWhiteSpace char then scan (offset + char.utf8Size) rest
    else if startsIdentifier char then
      let word := char :: rest.takeWhile continuesIdentifier
      have := (List.dropWhile_sublist continuesIdentifier (l := rest)).length_le
      (scan (offset + byteLength word) (rest.dropWhile continuesIdentifier)).map
        (⟨offset, identifier (String.ofList word)⟩ :: ·)
    else
      match mark? char with
      | some token => (scan (offset + char.utf8Size) rest).map (⟨offset, token⟩ :: ·)
      | none => .error (offset, char)
termination_by chars => chars.length

end TypeToken

end ValueGen
