/-
This file holds paths as texts whose parts stand between slashes. Appending puts a slash in
between only where there is none, and an absolute path takes the place of what it is appended to;
nothing is normalized. Two texts are the same path when they have the same components. The
directories around a path keep its text as far as it goes.
-/

namespace ValueGen.Path

/-- Splits a text at every occurrence of a character; the parts may be empty. -/
def splitAt (separator : Char) : List Char → List (List Char)
  | [] => [[]]
  | char :: rest =>
    if char = separator then [] :: splitAt separator rest
    else
      match splitAt separator rest with
      | [] => [[char]]
      | part :: parts => (char :: part) :: parts

/-- Whether the path starts at the root. -/
def isAbsolute (path : String) : Bool := path.toList.head? = some '/'

/-- Appends a path to another one. -/
def append (base path : String) : String :=
  if isAbsolute path then path
  else if base.isEmpty || base.toList.getLast? = some '/' then base ++ path
  else base ++ "/" ++ path

/-- A component of a path. -/
inductive Component
  | root
  /-- The working directory, which only the first component of a path can be. -/
  | current
  | parent
  | normal (name : String)
  deriving DecidableEq, Repr

/-- The parts of a path between slashes. -/
def parts (path : String) : List String :=
  ((splitAt '/' path.toList).filter (· ≠ [])).map String.ofList

/-- The components of a path. Empty parts do not count, and a single point counts only where it
starts a path that is not absolute. -/
def components (path : String) : List Component :=
  let start := if isAbsolute path then [Component.root] else []
  let start := if path = "." || path.toList.take 2 = ['.', '/'] then [Component.current] else start
  start ++ (parts path).filterMap fun part =>
    if part = "." then none else if part = ".." then some .parent else some (.normal part)

/-- Whether a part between slashes is no component: it is empty or a single point. -/
def isIdle (part : List Char) : Bool := part = [] || part = ['.']

/-- What a path starts with apart from its parts, and the rest: the root, or a point that stands
for the working directory. -/
def splitStart (path : String) : List Char × List Char :=
  match path.toList with
  | '/' :: rest => (['/'], rest)
  | ['.'] => (['.'], [])
  | '.' :: '/' :: rest => (['.'], '/' :: rest)
  | chars => ([], chars)

/-- Puts slashes between parts. -/
def joinParts : List (List Char) → List Char
  | [] => []
  | [part] => part
  | part :: rest => part ++ '/' :: joinParts rest

/-- A path that is cut off behind one of its parts, or behind what it starts with. -/
structure Ancestor where
  start : List Char
  /-- The parts that are left, the last one first. -/
  parts : List (List Char)

/-- The text of a path as far as it is left. -/
def Ancestor.text (ancestor : Ancestor) : String :=
  String.ofList (ancestor.start ++ joinParts ancestor.parts.reverse)

/-- The ancestors of a path that end with a component, from the inside out, without the root. -/
def ancestorsOf (start : List Char) : List (List Char) → List Ancestor
  | [] => if start = ['.'] then [⟨start, []⟩] else []
  | part :: rest =>
    if isIdle part then ancestorsOf start rest else ⟨start, part :: rest⟩ :: ancestorsOf start rest

/-- The path and the directories around it that it names, from the inside out, without the
root. -/
def ancestors (path : String) : List Ancestor :=
  let (start, rest) := splitStart path
  ancestorsOf start (splitAt '/' rest).reverse

/-- The directories around a path that it names, from the inside out, without the root. -/
def directoriesAround (path : String) : List Ancestor := (ancestors path).tail

/-- The path of a compilation unit under the output directory: a directory for each part of the
package that is not empty, and a file named for the outermost class. -/
def ofUnit (package topLevel : String) : String :=
  let segments := ((splitAt '.' package.toList).filter (· ≠ [])).map String.ofList
  append (segments.foldl append "") (topLevel ++ ".java")

end ValueGen.Path
