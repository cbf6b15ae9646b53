/-
This file writes JSON, in two layouts: the pretty one puts every item and every field on a line of
its own, indented by two spaces a level, and the compact one is a single line. Both write quotes,
backslashes and control characters as escapes and every other character as it is.
-/

import ValueGen.Json.Basic

namespace ValueGen

/-- The lower-case hexadecimal digit for a number below sixteen. -/
def hexDigit (value : Nat) : Char := Nat.digitChar value

namespace JsonNumber

/-- Writes a number; an exponent has no plus sign. -/
def print (number : JsonNumber) : String :=
  let sign := if number.negative then "-" else ""
  let fraction :=
    if number.fraction.isEmpty then ""
    else "." ++ String.ofList (number.fraction.map fun digit => Nat.digitChar digit.val)
  let exponent :=
    match number.exponent with
    | none => ""
    | some (.ofNat size) => "e" ++ Nat.repr size
    | some (.negSucc size) => "e-" ++ Nat.repr (size + 1)
  sign ++ Nat.repr number.whole ++ fraction ++ exponent

end JsonNumber

namespace Json

/-- Writes a character inside a string literal. -/
def escape (char : Char) : String :=
  match char with
  | '"' => "\\\""
  | '\\' => "\\\\"
  | '\x08' => "\\b"
  | '\x0c' => "\\f"
  | '\n' => "\\n"
  | '\r' => "\\r"
  | '\t' => "\\t"
  | char =>
    if char.toNat < 0x20 then
      "\\u00" ++ String.ofList [hexDigit (char.toNat / 16), hexDigit (char.toNat % 16)]
    else String.ofList [char]

/-- Writes a string literal. -/
def quote (text : String) : String :=
  "\"" ++ String.join (text.toList.map escape) ++ "\""

/-- Writes a key; one that denotes no text is written as a lone surrogate. -/
def quoteKey : Option String → String
  | some text => quote text
  | none => "\"\\ud800\""

/-! ### The pretty layout -/

/-- A line end and the indentation of a level. -/
def newLine (level : Nat) : String := "\n" ++ String.ofList (List.replicate (2 * level) ' ')

mutual

/-- Writes a value whose first line is already indented to a level. -/
def prettyAt (level : Nat) : Json → String
  | null => "null"
  | bool true => "true"
  | bool false => "false"
  | number value => value.print
  | string text => quote text
  | unpaired => quoteKey none
  | array [] => "[]"
  | array (item :: rest) =>
    "[" ++ newLine (level + 1) ++ prettyAt (level + 1) item ++ prettyItems (level + 1) rest ++
      newLine level ++ "]"
  | object [] => "\x7b\x7d"
  | object ((key, value) :: rest) =>
    "\x7b" ++ newLine (level + 1) ++ quoteKey key ++ ": " ++ prettyAt (level + 1) value ++
      prettyFields (level + 1) rest ++ newLine level ++ "\x7d"

/-- Writes the items after the first one. -/
def prettyItems (level : Nat) : List Json → String
  | [] => ""
  | item :: rest => "," ++ newLine level ++ prettyAt level item ++ prettyItems level rest

/-- Writes the fields after the first one. -/
def prettyFields (level : Nat) : List (Option String × Json) → String
  | [] => ""
  | (key, value) :: rest =>
    "," ++ newLine level ++ quoteKey key ++ ": " ++ prettyAt level value ++
      prettyFields level rest

end

/-- Writes a value in the pretty layout. -/
def pretty (value : Json) : String := prettyAt 0 value

/-! ### The compact layout -/

mutual

/-- Writes a value on one line without white space. -/
def compact : Json → String
  | null => "null"
  | bool true => "true"
  | bool false => "false"
  | number value => value.print
  | string text => quote text
  | unpaired => quoteKey none
  | array [] => "[]"
  | array (item :: rest) => "[" ++ compact item ++ compactItems rest ++ "]"
  | object [] => "\x7b\x7d"
  | object ((key, value) :: rest) =>
    "\x7b" ++ quoteKey key ++ ":" ++ compact value ++ compactFields rest ++ "\x7d"

/-- Writes the items after the first one. -/
def compactItems : List Json → String
  | [] => ""
  | item :: rest => "," ++ compact item ++ compactItems rest

/-- Writes the fields after the first one. -/
def compactFields : List (Option String × Json) → String
  | [] => ""
  | (key, value) :: rest =>
    "," ++ quoteKey key ++ ":" ++ compact value ++ compactFields rest

end

end Json

end ValueGen
