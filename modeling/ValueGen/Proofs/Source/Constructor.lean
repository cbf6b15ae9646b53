/-
This file says that the names of fields can be used. The constructor of a generated class has a
parameter for each field and sets the field from it, and an accessor returns the field; that takes
names that are no reserved words and differ from each other. They are and do in every class of a
tree, as long as no accessor in the tree has itself a name that cannot be used.
-/

import ValueGen.Proofs.Source.Methods

namespace ValueGen

open SourceLine (line block)

/-! ### The constructor -/

/-- A constructor that sets fields. -/
structure ConstructorMethod where
  /-- The simple name of the class. -/
  simple : String
  /-- The parameters, each with its type and its name. -/
  parameters : List (String × String)
  /-- The fields that are set, each with the name of what it is set to. -/
  assignments : List (String × String)

/-- The lines that a constructor is written as. -/
def ConstructorMethod.lines (method : ConstructorMethod) : List SourceLine :=
  block ("public " ++ method.simple ++ "(" ++
      ", ".intercalate (method.parameters.map fun parameter => parameter.1 ++ " " ++ parameter.2) ++
      ")") <|
    method.assignments.flatMap fun assignment =>
      line ("this." ++ assignment.1 ++ " = " ++ assignment.2 ++ ";")

namespace GeneratedClass

variable (generated : GeneratedClass)

/-- The constructor of a class. -/
def constructorMethod : ConstructorMethod where
  simple := generated.name.simpleName
  parameters := generated.fields.map fun field => (field.type.useForm, field.name)
  assignments := generated.fields.map fun field => (field.name, field.name)

/-- The constructor is what is written. -/
theorem lines_constructorMethod :
    generated.constructorMethod.lines =
      constructorLines generated.name.simpleName generated.fields := by
  unfold ConstructorMethod.lines constructorLines constructorMethod
  rw [List.map_map, List.flatMap_map]
  rfl

theorem constructorMethod_within_memberLines :
    LinesWithin generated.constructorMethod.lines generated.memberLines := by
  rw [memberLines_eq, lines_constructorMethod]
  exact ((((LinesWithin.middle _ _ _).append_right _).append_right _).append_right _)

theorem accessorMethods_within_memberLines :
    LinesWithin (methodLines generated.accessorMethods) generated.memberLines := by
  rw [memberLines_eq]
  exact ((LinesWithin.middle _ _ _).append_right _).append_right _

end GeneratedClass

/-! ### Names that can be used -/

/-- A name is not empty and no reserved word. -/
def CanBeUsed (name : String) : Prop := name ≠ "" ∧ FieldName.isReserved name = false

/-- The fields of a class have names that can be used side by side. -/
structure UsableFields (generated : GeneratedClass) : Prop where
  names : ∀ field ∈ generated.fields, CanBeUsed field.name
  apart : (generated.fields.map (·.name)).Nodup
  /-- The parameters of the constructor have different names, … -/
  parameters : (generated.constructorMethod.parameters.map (·.2)).Nodup
  /-- … and exactly one of the accessors returns a field. -/
  returned : ∀ field ∈ generated.fields,
    (generated.accessorMethods.map (·.result)).count field.name = 1

theorem usableFields_of_standsFor {declaration : Declaration} {generated : GeneratedClass}
    (standsFor : StandsFor declaration generated)
    (usable : ∀ accessor ∈ declaration.accessors, CanBeUsed accessor.name) :
    UsableFields generated where
  names field member := by
    obtain ⟨accessor, isAccessor, named, _⟩ := exists_mem_of_mem_right standsFor.named member
    obtain ⟨full, free⟩ := usable accessor isAccessor
    rw [named]
    exact ⟨FieldName.ofAccessor_ne_empty full, FieldName.isReserved_ofAccessor free⟩
  apart := standsFor.apart
  parameters := by
    rw [GeneratedClass.constructorMethod, List.map_map]
    exact standsFor.apart
  returned field member := by
    rw [GeneratedClass.accessorMethods, List.map_map]
    exact List.count_eq_one_of_mem standsFor.apart (List.mem_map_of_mem member)

/-- In each class of a tree the fields have names that can be used. -/
structure FieldsOfTree (outer : GeneratedClass) : Prop where
  usable : ∀ generated ∈ outer.preorder, UsableFields generated
  /-- The constructors are written in the unit, … -/
  constructors : ∀ generated ∈ outer.preorder, ∀ options,
    LinesWithin generated.constructorMethod.lines (outer.unitLines options)
  /-- … and so are the accessors. -/
  accessors : ∀ generated ∈ outer.preorder, ∀ options,
    LinesWithin (GeneratedClass.methodLines generated.accessorMethods) (outer.unitLines options)

/-- How fields are named. -/
structure NamesFields : Prop where
  /-- Whatever the cache holds, names can be used in the tree for any declaration where those of all
  accessors can be. -/
  usable (repository : Repository) (suffix : String) (cache : NameCache)
    (declaration : Declaration) (outer : GeneratedClass)
    (made : (((Resolver.remembering repository suffix).synthesize declaration).run cache).1 =
      .ok outer)
    (allowed : ∀ inside ∈ (repository.nest declaration).declarations,
      ∀ accessor ∈ inside.accessors, CanBeUsed accessor.name) : FieldsOfTree outer
  /-- A name that is not that of its accessor is what follows a leading word in it. -/
  shortened (accessor : String) (changed : FieldName.ofAccessor accessor ≠ accessor) :
    FieldName.IsLeft accessor (FieldName.ofAccessor accessor)

theorem namesFields : NamesFields where
  usable repository suffix cache declaration outer made allowed := by
    have sideBySide := Resolver.standsFor_preorder made
    have written := outer.memberLines_within_lines false
    refine ⟨fun generated member => ?_, fun generated member options => ?_,
      fun generated member options => ?_⟩
    · obtain ⟨inside, isInside, standsFor⟩ := exists_mem_of_mem_right sideBySide member
      exact usableFields_of_standsFor standsFor (allowed inside isInside)
    · exact generated.constructorMethod_within_memberLines.trans
        ((written generated member).append_left _)
    · exact generated.accessorMethods_within_memberLines.trans
        ((written generated member).append_left _)
  shortened accessor changed :=
    (FieldName.isLeft_or_eq accessor).elim And.left fun same => absurd same changed

/-- A marked interface with accessors that go on with two capitals, with a reserved word and with a
capital that is two characters in lower case, and another interface nested in it. -/
def siteRepository : Repository :=
  let site := (Declaration.interface "pkg" "SitePOJO").withMarker .plain
  let page := (Declaration.interface "pkg" "Page").nestIn site
  let accessors : List Accessor :=
    [⟨"getURL", "java.net.URL"⟩, ⟨"isDefault", "boolean"⟩, ⟨"get\u0130d", "int"⟩]
  ⟨[accessors.foldl Declaration.withAccessor site,
    page.withAccessor ⟨"getTitle", "java.lang.String"⟩], by decide⟩

/-- What comes of the marked interface, once the name of the one nested in it has been asked for. -/
def siteOutcome : Except GenerationError GeneratedClass :=
  (((Resolver.remembering siteRepository "POJO").synthesize siteRepository.declarations[0]).run
    (NameCache.after siteRepository "POJO" [(.strict, siteRepository.declarations[1])])).1

theorem namesFields_site :
    ∃ outer, siteOutcome = .ok outer ∧
      outer.preorder.map (fun generated => generated.fields.map (·.name)) =
        [["URL", "isDefault", "i\u0307d"], ["title"]] ∧ FieldsOfTree outer ∧
      FieldName.IsLeft "getURL" "URL" := by
  have told : siteOutcome.map (fun outer =>
      outer.preorder.map fun generated => generated.fields.map (·.name)) =
      .ok [["URL", "isDefault", "i\u0307d"], ["title"]] := by
    decide +kernel
  have allowed : ∀ inside ∈ (siteRepository.nest siteRepository.declarations[0]).declarations,
      ∀ accessor ∈ inside.accessors, CanBeUsed accessor.name := by
    unfold CanBeUsed
    decide +kernel
  have shortened := namesFields.shortened "getURL" (by decide +kernel)
  have name : FieldName.ofAccessor "getURL" = "URL" := by decide +kernel
  rw [name] at shortened
  obtain ⟨outer, made, names⟩ := exists_of_map_eq_ok told
  exact ⟨outer, made, names,
    namesFields.usable siteRepository "POJO" _ siteRepository.declarations[0] outer made allowed,
    shortened⟩

end ValueGen
