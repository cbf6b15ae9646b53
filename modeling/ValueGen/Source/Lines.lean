/-
This file holds source text as lines, each with its level of indentation. A block puts its body
one level deeper than its first and last line, so no level ever has to be given back. In a string
literal backslashes and quotes are escaped; every other character stands for itself.
-/

namespace ValueGen

/-- A line of source text. -/
structure SourceLine where
  level : Nat
  text : String
  deriving DecidableEq, Repr

namespace SourceLine

/-- A single line at the outermost level. -/
def line (text : String) : List SourceLine := [⟨0, text⟩]

/-- A single empty line. -/
def blank : List SourceLine := line ""

/-- Puts a line some levels deeper. -/
def shift (levels : Nat) (line : SourceLine) : SourceLine :=
  { line with level := line.level + levels }

/-- Puts lines some levels deeper. -/
def deeper (levels : Nat) (lines : List SourceLine) : List SourceLine :=
  lines.map (shift levels)

/-- A head with an opening brace, a body one level deeper, and a closing brace. -/
def block (head : String) (body : List SourceLine) : List SourceLine :=
  line (head ++ " \x7b") ++ deeper 1 body ++ line "\x7d"

/-- Writes a line with its line end. Empty lines are not indented. -/
def print (indent : String) (line : SourceLine) : String :=
  if line.text.isEmpty then "\n"
  else String.join (List.replicate line.level indent) ++ line.text ++ "\n"

/-- Writes lines one after the other. -/
def printAll (indent : String) (lines : List SourceLine) : String :=
  String.join (lines.map (print indent))

end SourceLine

namespace StringLiteral

/-- Writes a character inside a string literal. -/
def escape : Char → List Char
  | '\\' => ['\\', '\\']
  | '"' => ['\\', '"']
  | char => [char]

/-- Writes a string literal. -/
def quote (text : String) : String :=
  "\"" ++ String.ofList (text.toList.flatMap escape) ++ "\""

end StringLiteral

end ValueGen
