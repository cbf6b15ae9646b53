/-
This file writes type expressions as JSON and reads them back. Each is an object whose `kind`
tells the others; what a kind has no use for is passed over. When written, an absent bound and
empty bounds of a variable are left out. An array of the kind and what its fields hold, in order,
is read as well.

Reading looks at every value twice, as a type and as a list of types, before it knows which the
kind asks for; this is what lets the recursion follow the JSON value.
-/

import ValueGen.Json.Decode
import ValueGen.TypeExpr.Basic

namespace ValueGen

/-- The direction as a name. -/
def Variance.toName : Variance → String
  | upper => "upper"
  | lower => "lower"

/-- Reads a direction: its name, or an object that maps the name to null or to an empty object. -/
def Variance.ofJson? : Json → Option Variance
  | .string name => choices.lookup name
  | .object [(some name, .null)] | .object [(some name, .object [])] => choices.lookup name
  | _ => none
where
  /-- The directions by name. -/
  choices : List (String × Variance) := [("upper", upper), ("lower", lower)]

namespace TypeExpr

/-! ### Writing -/

mutual

/-- Writes a type. -/
def toJson : TypeExpr → Json
  | named name => .record [("kind", .string "named"), ("name", .string name)]
  | parameterized raw arguments =>
    .record [("kind", .string "parameterized"), ("raw", raw.toJson),
      ("args", .array (toJsons arguments))]
  | unbounded variance =>
    .record [("kind", .string "wildcard"), ("variance", .string variance.toName)]
  | bounded variance bound =>
    .record [("kind", .string "wildcard"), ("bound", bound.toJson),
      ("variance", .string variance.toName)]
  | array element => .record [("kind", .string "array"), ("element", element.toJson)]
  | typeVariable name [] => .record [("kind", .string "type_variable"), ("name", .string name)]
  | typeVariable name (bound :: bounds) =>
    .record [("kind", .string "type_variable"), ("name", .string name),
      ("bounds", .array (bound.toJson :: toJsons bounds))]

/-- Writes several types. -/
def toJsons : List TypeExpr → List Json
  | [] => []
  | type :: rest => type.toJson :: toJsons rest

end

/-! ### Reading -/

/-- The kinds of type, as JSON tells them apart. -/
inductive Kind
  | named
  | parameterized
  | wildcard
  | array
  | typeVariable
  deriving DecidableEq

/-- Reads a kind by name. Inside another type it may also be given by its position in the list of
kinds, counted from zero. -/
def Kind.ofJson? (nested : Bool) : Json → Option Kind
  | .string name =>
    [("named", named), ("parameterized", parameterized), ("wildcard", wildcard), ("array", array),
      ("type_variable", typeVariable)].lookup name
  | .number position =>
    if nested then
      position.natural?.bind fun index =>
        [named, parameterized, wildcard, array, typeVariable][index]?
    else none
  | _ => none

/-- The fields that tell a type of the kind, in the order in which an array has what they hold. -/
def Kind.fieldKeys : Kind → List String
  | named => ["name"]
  | parameterized => ["raw", "args"]
  | wildcard => ["bound", "variance"]
  | array => ["element"]
  | typeVariable => ["name", "bounds"]

/-- All fields that are known where a type has the kind. -/
def Kind.keys (kind : Kind) : List String := "kind" :: kind.fieldKeys

/-- The value of a field or an item: what it is as it stands, as a type and as a list of types. -/
structure Reading where
  json : Json
  type? : Option TypeExpr
  types? : Option (List TypeExpr)

/-- Reads a bound that may be null. -/
def Reading.bound? (reading : Reading) : Option (Option TypeExpr) :=
  match reading.json with
  | .null => some none
  | _ => reading.type?.map some

/-- Puts a type together from the fields of its object. -/
def ofFields? (nested : Bool) (fields : List (String × Reading)) : Option TypeExpr := do
  let kind ← Json.required? fields "kind" fun reading => Kind.ofJson? nested reading.json
  match kind with
  | .named =>
    let name ← Json.required? fields "name" (·.json.text?)
    pure (named name)
  | .parameterized =>
    let raw ← Json.required? fields "raw" (·.type?)
    let arguments ← Json.required? fields "args" (·.types?)
    pure (parameterized raw arguments)
  | .wildcard =>
    let bound ← Json.optional? fields "bound" (·.bound?) none
    let variance ← Json.required? fields "variance" fun reading => Variance.ofJson? reading.json
    match bound with
    | none => pure (unbounded variance)
    | some bound => pure (bounded variance bound)
  | .array =>
    let element ← Json.required? fields "element" (·.type?)
    pure (array element)
  | .typeVariable =>
    let name ← Json.required? fields "name" (·.json.text?)
    let bounds ← Json.optional? fields "bounds" (·.types?) []
    pure (typeVariable name bounds)

/-- Puts a type together from the items of its array, the first of which is the kind. -/
def ofItems? (nested : Bool) (items : List Reading) : Option TypeExpr := do
  let tag ← items.head?
  let kind ← Kind.ofJson? nested tag.json
  let fields ← Json.inOrder? kind.keys items
  ofFields? nested fields

mutual

/-- Reads a value in every way, as part of a type. -/
def reading : Json → Reading
  | .object fields =>
    ⟨.object fields, (Json.textKeys? (fieldReadings fields)).bind (ofFields? true), none⟩
  | .array items =>
    let readings := itemReadings items
    ⟨.array items, ofItems? true readings, readings.mapM (·.type?)⟩
  | value => ⟨value, none, none⟩

/-- Reads the value of every field in every way. -/
def fieldReadings : List (Option String × Json) → List (Option String × Reading)
  | [] => []
  | (key, value) :: rest => (key, reading value) :: fieldReadings rest

/-- Reads every item in every way. -/
def itemReadings : List Json → List Reading
  | [] => []
  | item :: rest => reading item :: itemReadings rest

end

/-- Reads a type from a value, which is nested in that of another type or stands alone. -/
def ofValue? (nested : Bool) : Json → Option TypeExpr
  | .object fields => (Json.textKeys? (fieldReadings fields)).bind (ofFields? nested)
  | .array items => ofItems? nested (itemReadings items)
  | _ => none

/-- How deep the JSON of a type may be nested. -/
def maximumDepth : Nat := 127

/-- Reads a type. Even what is passed over has to denote something and must not be nested too
deep. -/
def ofJson? (value : Json) : Option TypeExpr :=
  if value.isSound && value.depth ≤ maximumDepth then ofValue? false value else none

end TypeExpr

end ValueGen
