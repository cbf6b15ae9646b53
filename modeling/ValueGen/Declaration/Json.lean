/-
This file writes declarations as JSON and reads them back. The package is always written; an
absent option and an empty list are left out, and read as such where they are missing. A missing
package is the empty one. What is written is an object; an array of what the fields hold is read as
well.
-/

import ValueGen.Declaration.Basic
import ValueGen.Json.Decode

namespace ValueGen

open Json (required? optional? nullable? list? text?)

/-- The kinds of declaration by name. -/
def DeclarationKind.choices : List (String × DeclarationKind) :=
  [("interface", interface), ("marker_group", markerGroup), ("other", other)]

/-- The kind as a name. -/
def DeclarationKind.toName : DeclarationKind → String
  | interface => "interface"
  | markerGroup => "marker_group"
  | other => "other"

namespace Json

/-- A field with a text, left out where there is none. -/
def optionField (key : String) (write : Option Json) : List (String × Json) :=
  match write with
  | some value => [(key, value)]
  | none => []

/-- A field with an array, left out where it is empty. -/
def listField (key : String) (items : List Json) : List (String × Json) :=
  if items.isEmpty then [] else [(key, .array items)]

end Json

open Json (optionField listField)

/-! ### Writing -/

/-- Writes a marker. -/
def Marker.toJson (marker : Marker) : Json :=
  .record (optionField "name" (marker.name.map .string))

/-- Writes a type parameter. -/
def TypeParameter.toJson (parameter : TypeParameter) : Json :=
  .record (("name", .string parameter.name) ::
    listField "bounds" (parameter.bounds.map .string))

/-- Writes an accessor. -/
def Accessor.toJson (accessor : Accessor) : Json :=
  .record [("name", .string accessor.name), ("return_type", .string accessor.returnType)]

/-- Writes a declaration. -/
def Declaration.toJson (declaration : Declaration) : Json :=
  .record (
    [("name", .string declaration.name), ("package", .string declaration.package)] ++
    optionField "enclosing" (declaration.enclosing.map .string) ++
    [("kind", .string declaration.kind.toName)] ++
    optionField "marker" (declaration.marker.map Marker.toJson) ++
    listField "annotations" (declaration.annotations.map .string) ++
    listField "type_params" (declaration.typeParameters.map TypeParameter.toJson) ++
    listField "accessors" (declaration.accessors.map Accessor.toJson))

/-! ### Reading -/

/-- Reads a marker. -/
def Marker.ofJson? (value : Json) : Option Marker := do
  let fields ← value.members? ["name"]
  let name ← optional? fields "name" (nullable? text?) none
  pure ⟨name⟩

/-- Reads a type parameter. -/
def TypeParameter.ofJson? (value : Json) : Option TypeParameter := do
  let fields ← value.members? ["name", "bounds"]
  let name ← required? fields "name" text?
  let bounds ← optional? fields "bounds" (list? text?) []
  pure ⟨name, bounds⟩

/-- Reads an accessor. -/
def Accessor.ofJson? (value : Json) : Option Accessor := do
  let fields ← value.members? ["name", "return_type"]
  let name ← required? fields "name" text?
  let returnType ← required? fields "return_type" text?
  pure ⟨name, returnType⟩

/-- Reads a declaration. -/
def Declaration.ofJson? (value : Json) : Option Declaration := do
  let fields ← value.members? ["name", "package", "enclosing", "kind", "marker", "annotations",
    "type_params", "accessors"]
  let name ← required? fields "name" text?
  let package ← optional? fields "package" text? ""
  let enclosing ← optional? fields "enclosing" (nullable? text?) none
  let kind ← required? fields "kind" (Json.choice? DeclarationKind.choices)
  let marker ← optional? fields "marker" (nullable? Marker.ofJson?) none
  let annotations ← optional? fields "annotations" (list? text?) []
  let typeParameters ← optional? fields "type_params" (list? TypeParameter.ofJson?) []
  let accessors ← optional? fields "accessors" (list? Accessor.ofJson?) []
  pure ⟨name, package, enclosing, kind, marker, annotations, typeParameters, accessors⟩

end ValueGen
