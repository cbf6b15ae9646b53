/-
This file reads the strings of TOML. Basic strings stand in double quotes and know escapes,
literal strings stand in single quotes and know none; both have a form over several lines in three
quotes, from which a line end right after the opening is dropped while every other one stays as it
is. Control characters other than the tab are not allowed.
-/

import ValueGen.Json.Token

namespace ValueGen.Toml

/-- Whether a character may stand in a string or a comment as it is. -/
def isPlain (char : Char) : Bool :=
  char = '\t' || (0x20 ≤ char.toNat && char.toNat ≠ 0x7F)

/-- The character for a number of hexadecimal digits. -/
def codePoint? (digits : List Char) (count : Nat) : Option Char := do
  let values ← digits.mapM JsonToken.hexDigit?
  let code := values.foldl (fun total digit => 16 * total + digit) 0
  if values.length = count && (code < 0xD800 || (0xDFFF < code && code < 0x110000)) then
    some (Char.ofNat code)
  else none

/-- Reads an escape after its backslash: the character, and the rest of the text. -/
def escape? : List Char → Option (Char × List Char)
  | 'b' :: rest => some ('\x08', rest)
  | 't' :: rest => some ('\t', rest)
  | 'n' :: rest => some ('\n', rest)
  | 'f' :: rest => some ('\x0c', rest)
  | 'r' :: rest => some ('\r', rest)
  | 'e' :: rest => some ('\x1b', rest)
  | '"' :: rest => some ('"', rest)
  | '\\' :: rest => some ('\\', rest)
  | 'x' :: rest => (codePoint? (rest.take 2) 2).map fun char => (char, rest.drop 2)
  | 'u' :: rest => (codePoint? (rest.take 4) 4).map fun char => (char, rest.drop 4)
  | 'U' :: rest => (codePoint? (rest.take 8) 8).map fun char => (char, rest.drop 8)
  | _ => none

/-- Splits off the line end that a text starts with, if it starts with one. -/
def lineEnd? : List Char → Option (List Char × List Char)
  | '\n' :: rest => some (['\n'], rest)
  | '\r' :: '\n' :: rest => some (['\r', '\n'], rest)
  | _ => none

/-- Drops the line end that a text starts with, if it starts with one. -/
def dropLineEnd? (chars : List Char) : Option (List Char) := (lineEnd? chars).map (·.2)

/-- Drops blanks, tabs and line ends from the front of a text. -/
def dropSpace : List Char → List Char
  | ' ' :: rest => dropSpace rest
  | '\t' :: rest => dropSpace rest
  | '\n' :: rest => dropSpace rest
  | '\r' :: '\n' :: rest => dropSpace rest
  | chars => chars

/-- Reads the rest of a basic string in one line. The count bounds the number of steps. -/
def basic? : Nat → List Char → Option (List Char × List Char)
  | 0, _ => none
  | _ + 1, '"' :: rest => some ([], rest)
  | count + 1, '\\' :: rest => do
    let (char, rest) ← escape? rest
    let (text, rest) ← basic? count rest
    some (char :: text, rest)
  | count + 1, char :: rest =>
    if isPlain char then do
      let (text, rest) ← basic? count rest
      some (char :: text, rest)
    else none
  | _, [] => none

/-- Reads the rest of a literal string in one line. -/
def literal? : List Char → Option (List Char × List Char)
  | '\x27' :: rest => some ([], rest)
  | char :: rest =>
    if isPlain char then do
      let (text, rest) ← literal? rest
      some (char :: text, rest)
    else none
  | [] => none

/-- Splits off the quotes that a text starts with, five at most. -/
def takeQuotes (quote : Char) (chars : List Char) : Nat × List Char :=
  let count := min 5 (chars.takeWhile (· = quote)).length
  (count, chars.drop count)

/-- Reads the rest of a string over several lines, with escapes or without. The last three of up
to five quotes end it. A backslash before a line end drops the space that follows. The count
bounds the number of steps. -/
def lines? (quote : Char) (escapes : Bool) : Nat → List Char → Option (List Char × List Char)
  | 0, _ => none
  | count + 1, chars =>
    match chars with
    | [] => none
    | char :: rest =>
      if char = quote then
        let (quotes, after) := takeQuotes quote chars
        if 3 ≤ quotes then some (List.replicate (quotes - 3) quote, after)
        else do
          let (text, after) ← lines? quote escapes count after
          some (List.replicate quotes quote ++ text, after)
      else if escapes && char = '\\' then
        let blanks := rest.dropWhile fun char => char = ' ' || char = '\t'
        match dropLineEnd? blanks with
        | some after => lines? quote escapes count (dropSpace after)
        | none => do
          let (char, after) ← escape? rest
          let (text, after) ← lines? quote escapes count after
          some (char :: text, after)
      else
        match lineEnd? chars with
        | some (lineEnd, after) => do
          let (text, after) ← lines? quote escapes count after
          some (lineEnd ++ text, after)
        | none =>
          if isPlain char then do
            let (text, after) ← lines? quote escapes count rest
            some (char :: text, after)
          else none

/-- Drops a line end from the front of a text, if there is one. -/
def dropFirstLineEnd (chars : List Char) : List Char := (dropLineEnd? chars).getD chars

/-- Reads a string in one line: its text, and what follows it. The count bounds the number of
steps. -/
def quoted? (count : Nat) : List Char → Option (String × List Char)
  | '"' :: rest => (basic? count rest).map fun (text, rest) => (String.ofList text, rest)
  | '\x27' :: rest => (literal? rest).map fun (text, rest) => (String.ofList text, rest)
  | _ => none

/-- Reads a string of any form: its text, and what follows it. The count bounds the number of
steps. -/
def string? (count : Nat) : List Char → Option (String × List Char)
  | '"' :: '"' :: '"' :: rest =>
    (lines? '"' true count (dropFirstLineEnd rest)).map fun (text, rest) =>
      (String.ofList text, rest)
  | '\x27' :: '\x27' :: '\x27' :: rest =>
    (lines? '\x27' false count (dropFirstLineEnd rest)).map fun (text, rest) =>
      (String.ofList text, rest)
  | chars => quoted? count chars

end ValueGen.Toml
