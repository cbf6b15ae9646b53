/-
This file says that manifests are read as they were written. The fields of a declaration have
different keys, so a key holds just what its field was written with, and what was left out is read
as absent: a marker without a name stays apart from no marker. As the pretty layout is read back,
a manifest is read from its own text, except that a version other than the written one is refused.
-/

import ValueGen.Manifest
import ValueGen.Proofs.Json.Fields

namespace ValueGen

open Json (required? optional? nullable? list? text? choice? optionField listField valuesOf
  arrayUnlessEmpty listField_eq valuesOf_append valuesOf_cons valuesOf_optionField members?_record
  required?_eq optional?_eq optional?_nullable optional?_list isTextual_record isTextual_array
  isTextual_optionField isTextual_listField)

/-! ### Reading declarations back -/

theorem Json.text?_string (text : String) : text? (.string text) = some text := rfl

theorem Json.string_ne_null (text : String) : Json.string text ≠ .null := nofun

theorem Json.record_ne_null (fields : List (String × Json)) : Json.record fields ≠ .null := nofun

/-- A marker is read as it was written. -/
theorem Marker.ofJson?_toJson (marker : Marker) : ofJson? marker.toJson = some marker := by
  obtain ⟨name⟩ := marker
  rw [ofJson?, toJson, members?_record, Option.bind_eq_bind, Option.bind_some]
  generalize written : optionField "name" (name.map .string) = fields
  have nameRead : optional? fields "name" (nullable? text?) none = some name :=
    optional?_nullable Json.text?_string Json.string_ne_null
      (by rw [← written, valuesOf_optionField, if_pos rfl])
  rw [nameRead]
  rfl

/-- A type parameter is read as it was written. -/
theorem TypeParameter.ofJson?_toJson (parameter : TypeParameter) :
    ofJson? parameter.toJson = some parameter := by
  obtain ⟨name, bounds⟩ := parameter
  rw [ofJson?, toJson, members?_record, Option.bind_eq_bind, Option.bind_some, listField_eq]
  generalize written : ("name", Json.string name) ::
    optionField "bounds" (arrayUnlessEmpty (bounds.map .string)) = fields
  have nameRead : required? fields "name" text? = some name :=
    required?_eq Json.text?_string (by simp [← written, valuesOf_cons, valuesOf_optionField])
  have boundsRead : optional? fields "bounds" (list? text?) [] = some bounds :=
    optional?_list Json.text?_string (by simp [← written, valuesOf_cons, valuesOf_optionField])
  rw [nameRead, boundsRead]
  rfl

/-- An accessor is read as it was written. -/
theorem Accessor.ofJson?_toJson (accessor : Accessor) :
    ofJson? accessor.toJson = some accessor := by
  obtain ⟨name, returnType⟩ := accessor
  rw [ofJson?, toJson, members?_record, Option.bind_eq_bind, Option.bind_some]
  rfl

/-- A kind is read from its name. -/
theorem DeclarationKind.choice?_toName (kind : DeclarationKind) :
    choice? choices (.string kind.toName) = some kind := by
  cases kind <;> rfl

/-- The fields that a declaration is written with. -/
def Declaration.jsonFields (declaration : Declaration) : List (String × Json) :=
  [("name", .string declaration.name), ("package", .string declaration.package)] ++
  optionField "enclosing" (declaration.enclosing.map .string) ++
  [("kind", .string declaration.kind.toName)] ++
  optionField "marker" (declaration.marker.map Marker.toJson) ++
  listField "annotations" (declaration.annotations.map .string) ++
  listField "type_params" (declaration.typeParameters.map TypeParameter.toJson) ++
  listField "accessors" (declaration.accessors.map Accessor.toJson)

/-- What a key holds among the fields of a declaration: no two of its fields have the same key. -/
theorem Declaration.valuesOf_jsonFields (declaration : Declaration) (key : String) :
    valuesOf declaration.jsonFields key =
      match key with
      | "name" => [.string declaration.name]
      | "package" => [.string declaration.package]
      | "enclosing" => (declaration.enclosing.map .string).toList
      | "kind" => [.string declaration.kind.toName]
      | "marker" => (declaration.marker.map Marker.toJson).toList
      | "annotations" => (arrayUnlessEmpty (declaration.annotations.map .string)).toList
      | "type_params" =>
        (arrayUnlessEmpty (declaration.typeParameters.map TypeParameter.toJson)).toList
      | "accessors" => (arrayUnlessEmpty (declaration.accessors.map Accessor.toJson)).toList
      | _ => [] := by
  unfold jsonFields
  simp only [listField_eq, valuesOf_append, valuesOf_cons, valuesOf_optionField]
  -- the cases are those of the key, so its match has to stand first
  rw [eq_comm]
  split <;> simp_all [valuesOf, eq_comm]

/-- A declaration is read as it was written. -/
theorem Declaration.ofJson?_toJson (declaration : Declaration) :
    ofJson? declaration.toJson = some declaration := by
  have nameRead : required? declaration.jsonFields "name" text? = some declaration.name :=
    required?_eq Json.text?_string (declaration.valuesOf_jsonFields "name")
  have packageRead : optional? declaration.jsonFields "package" text? "" =
      some declaration.package :=
    optional?_eq Json.text?_string (declaration.valuesOf_jsonFields "package")
  have enclosingRead : optional? declaration.jsonFields "enclosing" (nullable? text?) none =
      some declaration.enclosing :=
    optional?_nullable Json.text?_string Json.string_ne_null
      (declaration.valuesOf_jsonFields "enclosing")
  have kindRead : required? declaration.jsonFields "kind" (choice? DeclarationKind.choices) =
      some declaration.kind :=
    @required?_eq _ _ (fun kind : DeclarationKind => .string kind.toName) _ _
      DeclarationKind.choice?_toName declaration.kind (declaration.valuesOf_jsonFields "kind")
  have markerRead : optional? declaration.jsonFields "marker" (nullable? Marker.ofJson?) none =
      some declaration.marker :=
    optional?_nullable Marker.ofJson?_toJson (fun marker => Json.record_ne_null _)
      (declaration.valuesOf_jsonFields "marker")
  have annotationsRead : optional? declaration.jsonFields "annotations" (list? text?) [] =
      some declaration.annotations :=
    optional?_list Json.text?_string (declaration.valuesOf_jsonFields "annotations")
  have typeParametersRead :
      optional? declaration.jsonFields "type_params" (list? TypeParameter.ofJson?) [] =
        some declaration.typeParameters :=
    optional?_list TypeParameter.ofJson?_toJson (declaration.valuesOf_jsonFields "type_params")
  have accessorsRead : optional? declaration.jsonFields "accessors" (list? Accessor.ofJson?) [] =
      some declaration.accessors :=
    optional?_list Accessor.ofJson?_toJson (declaration.valuesOf_jsonFields "accessors")
  have written : declaration.toJson = .record declaration.jsonFields := rfl
  rw [written, ofJson?, members?_record, Option.bind_eq_bind, Option.bind_some, nameRead,
    packageRead, enclosingRead, kindRead, markerRead, annotationsRead, typeParametersRead,
    accessorsRead]
  rfl

/-! ### What is written is textual -/

theorem Json.isTextual_string (text : String) : (Json.string text).IsTextual := trivial

theorem Marker.isTextual_toJson (marker : Marker) : marker.toJson.IsTextual :=
  isTextual_record (isTextual_optionField Json.isTextual_string "name" marker.name)

theorem TypeParameter.isTextual_toJson (parameter : TypeParameter) :
    parameter.toJson.IsTextual :=
  isTextual_record (List.forall_mem_cons.mpr
    ⟨trivial, isTextual_listField Json.isTextual_string "bounds" parameter.bounds⟩)

theorem Accessor.isTextual_toJson (accessor : Accessor) : accessor.toJson.IsTextual :=
  ⟨rfl, trivial, rfl, trivial, trivial⟩

theorem Declaration.isTextual_toJson (declaration : Declaration) :
    declaration.toJson.IsTextual := by
  refine isTextual_record ?_
  simp only [List.forall_mem_append, List.forall_mem_cons]
  exact ⟨⟨⟨⟨⟨⟨⟨trivial, trivial, nofun⟩,
    isTextual_optionField Json.isTextual_string "enclosing" declaration.enclosing⟩,
    ⟨trivial, nofun⟩⟩,
    isTextual_optionField Marker.isTextual_toJson "marker" declaration.marker⟩,
    isTextual_listField Json.isTextual_string "annotations" declaration.annotations⟩,
    isTextual_listField TypeParameter.isTextual_toJson "type_params" declaration.typeParameters⟩,
    isTextual_listField Accessor.isTextual_toJson "accessors" declaration.accessors⟩

/-! ### Manifests -/

namespace Manifest

theorem isTextual_toJson (manifest : Manifest) : manifest.toJson.IsTextual := by
  have declarations : (Json.array (manifest.declarations.map Declaration.toJson)).IsTextual :=
    isTextual_array Declaration.isTextual_toJson manifest.declarations
  exact ⟨rfl, trivial, rfl, declarations, trivial⟩

/-- A manifest of any version is read from its JSON value as it was written. -/
theorem ofJson?_toJson (manifest : Manifest) : ofJson? manifest.toJson = some manifest := by
  obtain ⟨version, declarations⟩ := manifest
  rw [ofJson?, toJson, members?_record, Option.bind_eq_bind, Option.bind_some]
  generalize written : [("version", Json.string version),
    ("declarations", .array (declarations.map Declaration.toJson))] = fields
  have versionRead : required? fields "version" text? = some version :=
    required?_eq Json.text?_string (by rw [← written]; rfl)
  have declarationsRead : optional? fields "declarations" (list? Declaration.ofJson?) [] =
      some declarations :=
    optional?_eq (Json.list?_array Declaration.ofJson?_toJson) (by rw [← written]; rfl)
  rw [versionRead, declarationsRead]
  rfl

/-- The text of a manifest is read as the manifest, if it has the version that is written. -/
theorem read_print (manifest : Manifest) :
    read manifest.print =
      if manifest.version = currentVersion then .ok manifest
      else .error (.versionMismatch manifest.version) := by
  rw [read, print, Json.read_pretty manifest.toJson manifest.isTextual_toJson, Option.bind_some,
    ofJson?_toJson]

theorem version_of_read {text : String} {manifest : Manifest}
    (accepted : read text = .ok manifest) : manifest.version = currentVersion := by
  rw [read] at accepted
  split at accepted
  · cases accepted
  · split at accepted
    · rename_i current
      cases accepted
      exact current
    · cases accepted

/-- Declarations are read from the text of their manifest as they are and in their order, and what
is read from any text is read again from its own text. -/
theorem roundTrip_print :
    (∀ declarations, read (new declarations).print = .ok (new declarations)) ∧
      ∀ text manifest, read text = .ok manifest → read manifest.print = .ok manifest := by
  constructor
  · intro declarations
    exact (read_print (new declarations)).trans (if_pos rfl)
  · intro text manifest accepted
    exact (read_print manifest).trans (if_pos (version_of_read accepted))

/-- A manifest that is written in another way: with the version last, without a package, with a
field that is not known, with a marker whose name is null, and with arrays for a declaration and for
its marker. -/
def foreign : Json :=
  .record [("declarations", .array [.record [("kind", .string "other"), ("since", .null),
      ("marker", .record [("name", .null)]), ("name", .string "É\n")],
      .array [.string "UserPOJO", .string "pkg", .null, .string "interface", .array []]]),
    ("version", .string "1.0.0")]

/-- The declarations of that manifest. -/
def foreignDeclarations : List Declaration :=
  [(Declaration.new "" "É\n" .other).withMarker .plain,
    (Declaration.interface "pkg" "UserPOJO").withMarker .plain]

theorem roundTrip_print_foreign :
    read foreign.pretty = .ok (new foreignDeclarations) ∧
      read (new foreignDeclarations).print = .ok (new foreignDeclarations) := by
  have textual : foreign.IsTextual := by
    simp [foreign, Json.record, Json.IsTextual, Json.AreTextual, Json.FieldsAreTextual]
  have accepted : read foreign.pretty = .ok (new foreignDeclarations) := by
    rw [read, Json.read_pretty foreign textual]
    rfl
  exact ⟨accepted, roundTrip_print.2 foreign.pretty _ accepted⟩

end Manifest

end ValueGen
