/-
This file holds TOML values and builds tables line by line. A table remembers how it came about,
because that decides which later lines may add to it; a number keeps no more than readers of
settings can tell apart.

A key can be given once. A header opens a table that no line has opened or added to before, or adds
one more to an array of tables. A dotted key adds to a table that only dotted keys have made; on the
way there it also passes the tables that headers of tables further in have mentioned. What stands
between braces is complete.
-/

namespace ValueGen

/-- How a table came about, which decides what may be added to it. -/
inductive TomlOrigin
  /-- A header of a table further in mentions it. -/
  | mentioned
  /-- A header of its own opens it. -/
  | header
  /-- A dotted key mentions it. -/
  | dotted
  /-- It is written between braces and is complete. -/
  | inline
  deriving DecidableEq, Repr

/-- A TOML value. -/
inductive Toml
  | string (text : String)
  | integer (value : Int)
  /-- A floating-point number; what it is does not matter to any reader. -/
  | float
  | bool (value : Bool)
  /-- A date, a time or both; what it is does not matter to any reader. -/
  | datetime
  | array (items : List Toml)
  /-- An array of tables that headers add to. -/
  | tables (items : List (List (String × Toml)))
  | table (origin : TomlOrigin) (fields : List (String × Toml))
  deriving Repr, Inhabited

namespace Toml

/-- The fields of a table. -/
abbrev Fields := List (String × Toml)

/-- Puts a value in place of the one with the same key, or at the end. -/
def Fields.put (fields : Fields) (key : String) (value : Toml) : Fields :=
  if fields.any (·.1 = key) then
    fields.map fun field => if field.1 = key then (key, value) else field
  else fields ++ [(key, value)]

/-- Changes the fields of the table at the end of a dotted key. That table is one that dotted keys
have made; on the way to it the last table of an array and a table that was only mentioned will
do. -/
def alongKey? (fields : Fields) (change : Fields → Option Fields) : List String → Option Fields
  | [] => change fields
  | key :: rest =>
    match fields.lookup key with
    | none => do
      let inner ← alongKey? [] change rest
      some (fields.put key (.table .dotted inner))
    | some (.table origin inner) =>
      if origin = .dotted || (origin = .mentioned && !rest.isEmpty) then do
        let inner ← alongKey? inner change rest
        some (fields.put key (.table origin inner))
      else none
    | some (.tables items) =>
      if rest.isEmpty then none
      else do
        let last ← items.getLast?
        let inner ← alongKey? last change rest
        some (fields.put key (.tables (items.dropLast ++ [inner])))
    | some _ => none

/-- Gives a value to a dotted key. -/
def assign? (fields : Fields) (path : List String) (value : Toml) : Option Fields := do
  let last ← path.getLast?
  alongKey? fields (fun inner =>
    if inner.any (·.1 = last) then none else some (inner.put last value)) path.dropLast

/-- Changes the fields of the table that a header leads to; on the way there it enters the last
table of an array. -/
def alongHeader? (fields : Fields) (change : Fields → Option Fields) :
    List String → Option Fields
  | [] => change fields
  | key :: rest =>
    match fields.lookup key with
    | none => do
      let inner ← alongHeader? [] change rest
      some (fields.put key (.table .mentioned inner))
    | some (.table origin inner) =>
      if origin = .inline then none
      else do
        let inner ← alongHeader? inner change rest
        some (fields.put key (.table origin inner))
    | some (.tables items) => do
      let last ← items.getLast?
      let inner ← alongHeader? last change rest
      some (fields.put key (.tables (items.dropLast ++ [inner])))
    | some _ => none

/-- Opens the table of a header. -/
def openTable? (fields : Fields) (path : List String) : Option Fields := do
  let last ← path.getLast?
  alongHeader? fields (fun inner =>
    match inner.lookup last with
    | none => some (inner.put last (.table .header []))
    | some (.table .mentioned fields) => some (inner.put last (.table .header fields))
    | some _ => none) path.dropLast

/-- Adds a table to the array of a header. -/
def openItem? (fields : Fields) (path : List String) : Option Fields := do
  let last ← path.getLast?
  alongHeader? fields (fun inner =>
    match inner.lookup last with
    | none => some (inner.put last (.tables [[]]))
    | some (.tables items) => some (inner.put last (.tables (items ++ [[]])))
    | some _ => none) path.dropLast

/-- Gives a value to a dotted key in the table that the last header has opened. -/
def assignBelow? (fields : Fields) (header path : List String) (value : Toml) : Option Fields :=
  alongHeader? fields (fun inner => assign? inner path value) header

end Toml

end ValueGen
