/-
This file reads TOML documents: lines that are empty, open a table, or give a value to a key, with
a comment at the end if one likes. Values between brackets or braces may go on over several lines
and end with a comma. There is a limit to how deep they may be nested, and the same limit to the
parts of a dotted key.

The readers take a count that bounds the number of their steps. The length of the document is
enough for all of them, since every step takes a character at least.
-/

import ValueGen.Toml.Quoted
import ValueGen.Toml.Scalar
import ValueGen.Toml.Table

namespace ValueGen.Toml

/-! ### Space and comments -/

/-- Drops blanks and tabs from the front of a text. -/
def dropBlanks (chars : List Char) : List Char :=
  chars.dropWhile fun char => char = ' ' || char = '\t'

/-- Drops a comment up to the end of its line, if the text starts with one. -/
def dropComment? : List Char → Option (List Char)
  | '#' :: rest =>
    let after := rest.dropWhile isPlain
    match after with
    | [] | '\n' :: _ | '\r' :: '\n' :: _ => some after
    | _ => none
  | chars => some chars

/-- Drops what may stand between the end of a line and the next one. -/
def dropLineRest? (chars : List Char) : Option (List Char) := do
  let rest ← dropComment? (dropBlanks chars)
  match rest with
  | [] => some []
  | _ => dropLineEnd? rest

/-- Drops space, line ends and comments from the front of a text. -/
def gap? : Nat → List Char → Option (List Char)
  | 0, _ => none
  | count + 1, chars =>
    let rest := dropBlanks chars
    match rest with
    | '#' :: _ => (dropComment? rest).bind (gap? count)
    | _ =>
      match dropLineEnd? rest with
      | some after => gap? count after
      | none => some rest

/-! ### Keys -/

/-- Whether a character may stand in a key without quotes. -/
def isKeyChar (char : Char) : Bool := char.isAlphanum || char = '_' || char = '-'

/-- Reads a part of a dotted key. -/
def keyPart? (count : Nat) (chars : List Char) : Option (String × List Char) :=
  match chars with
  | '"' :: _ | '\x27' :: _ => quoted? count chars
  | _ =>
    let word := chars.takeWhile isKeyChar
    if word.isEmpty then none else some (String.ofList word, chars.dropWhile isKeyChar)

/-- How many parts a dotted key may have. -/
def keyLimit : Nat := 80

/-- Reads a dotted key of so many parts at most; the space around it is dropped. -/
def keyParts? (count : Nat) : Nat → List Char → Option (List String × List Char)
  | 0, _ => none
  | limit + 1, chars => do
    let (part, rest) ← keyPart? count (dropBlanks chars)
    match dropBlanks rest with
    | '.' :: rest => do
      let (parts, rest) ← keyParts? count limit rest
      some (part :: parts, rest)
    | rest => some ([part], rest)

/-- Reads a dotted key. -/
def key? (count : Nat) (chars : List Char) : Option (List String × List Char) :=
  keyParts? count keyLimit chars

/-! ### Values -/

/-- How deep arrays and inline tables may be nested. -/
def depthLimit : Nat := 80

/-- Whether a character may stand in a value that is written without quotes or brackets. -/
def isScalarChar (char : Char) : Bool :=
  char.isAlphanum || char = '_' || char = '+' || char = '-' || char = '.' || char = ':'

/-- Reads a value that is written without quotes or brackets; one blank may stand between a date
and a time. -/
def takeScalar? (chars : List Char) : Option (Toml × List Char) := do
  let word := chars.takeWhile isScalarChar
  let rest := chars.dropWhile isScalarChar
  let (word, rest) :=
    match date? word, rest with
    | some [], ' ' :: more =>
      if more.head?.any Char.isDigit then
        (word ++ ' ' :: more.takeWhile isScalarChar, more.dropWhile isScalarChar)
      else (word, rest)
    | _, _ => (word, rest)
  let value ← scalar? word
  some (value, rest)

/-- Reads the items of an array up to its end, each with a given reader. -/
def items? (read : List Char → Option (Toml × List Char)) :
    Nat → List Char → Option (List Toml × List Char)
  | 0, _ => none
  | count + 1, chars => do
    match ← gap? (count + 1) chars with
    | ']' :: rest => some ([], rest)
    | chars =>
      let (item, rest) ← read chars
      match ← gap? (count + 1) rest with
      | ',' :: rest => do
        let (items, rest) ← items? read count rest
        some (item :: items, rest)
      | ']' :: rest => some ([item], rest)
      | _ => none

/-- Reads the fields of an inline table up to its end, each value with a given reader. -/
def fields? (read : List Char → Option (Toml × List Char)) :
    Nat → Fields → List Char → Option (Fields × List Char)
  | 0, _, _ => none
  | count + 1, done, chars => do
    match ← gap? (count + 1) chars with
    | '\x7d' :: rest => some (done, rest)
    | chars =>
      let (path, rest) ← key? (count + 1) chars
      let rest ← skip? '=' (← gap? (count + 1) rest)
      let (value, rest) ← read (← gap? (count + 1) rest)
      let done ← assign? done path value
      match ← gap? (count + 1) rest with
      | ',' :: rest => fields? read count done rest
      | '\x7d' :: rest => some (done, rest)
      | _ => none

/-- Reads a value in which arrays and inline tables are nested so deep at most. -/
def value? (count : Nat) : Nat → List Char → Option (Toml × List Char)
  | depth, chars =>
    match chars with
    | '"' :: _ | '\x27' :: _ => (string? count chars).map fun (text, rest) => (string text, rest)
    | '[' :: rest =>
      match depth with
      | 0 => none
      | depth + 1 => (items? (value? count depth) count rest).map fun (items, rest) =>
        (array items, rest)
    | '\x7b' :: rest =>
      match depth with
      | 0 => none
      | depth + 1 => (fields? (value? count depth) count [] rest).map fun (fields, rest) =>
        (table .inline fields, rest)
    | _ => takeScalar? chars

/-! ### Documents -/

/-- Reads a key and its value. -/
def assignment? (count : Nat) (chars : List Char) : Option (List String × Toml × List Char) := do
  let (path, rest) ← key? count chars
  let rest ← skip? '=' rest
  let (value, rest) ← value? count depthLimit (dropBlanks rest)
  some (path, value, rest)

/-- Reads the lines of a document after the header that is given as a path. -/
def lines : Nat → Fields → List String → List Char → Option Fields
  | 0, _, _, _ => none
  | count + 1, fields, header, chars =>
    match dropBlanks chars with
    | [] => some fields
    | '[' :: '[' :: rest => do
      let (path, rest) ← key? (count + 1) rest
      let rest ← (skip? ']' rest).bind (skip? ']')
      let fields ← openItem? fields path
      lines count fields path (← dropLineRest? rest)
    | '[' :: rest => do
      let (path, rest) ← key? (count + 1) rest
      let rest ← skip? ']' rest
      let fields ← openTable? fields path
      lines count fields path (← dropLineRest? rest)
    | first :: rest =>
      if first = '#' || first = '\n' || first = '\r' then do
        lines count fields header (← dropLineRest? (first :: rest))
      else do
        let (path, value, rest) ← assignment? (count + 1) (first :: rest)
        let fields ← assignBelow? fields header path value
        lines count fields header (← dropLineRest? rest)

/-- Reads a document: the fields of its outermost table. A byte order mark at the start does not
count. -/
def read (text : String) : Option Fields :=
  let chars :=
    match text.toList with
    | first :: rest => if first.toNat = 0xFEFF then rest else first :: rest
    | [] => []
  lines (chars.length + 1) [] [] chars

end ValueGen.Toml
