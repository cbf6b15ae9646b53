/-
This file says which methods without parameters a generated class has: the accessors, one for each
field, and `hashCode` and `toString`. No two fields of a class have one name, so no two accessors
have; but nothing compares them with the two methods that every class has besides. So the names of
the methods are distinct exactly if no accessor of the declaration is called like one of these two.
-/

import ValueGen.Proofs.Source.Equality

namespace ValueGen

open SourceLine (line blank block)

/-! ### The methods without parameters -/

/-- A method without parameters, which gives the value of an expression. -/
structure NullaryMethod where
  /-- Whether it overrides a method that every object has. -/
  overrides : Bool
  type : String
  name : String
  /-- The expression. -/
  result : String
  deriving DecidableEq

/-- The lines that a method is written as. -/
def NullaryMethod.lines (method : NullaryMethod) : List SourceLine :=
  (if method.overrides then line "@Override" else []) ++
    block ("public " ++ method.type ++ " " ++ method.name ++ "()")
      (line ("return " ++ method.result ++ ";"))

namespace GeneratedClass

variable (generated : GeneratedClass)

/-- The accessors of a class. -/
def accessorMethods : List NullaryMethod :=
  generated.fields.map fun field => ⟨false, field.type.useForm, field.accessor, field.name⟩

/-- The methods of a class that take the place of those that every object has. -/
def overridingMethods : List NullaryMethod :=
  [⟨true, "int", "hashCode", "java.util.Arrays.deepHashCode(new Object[] \x7b" ++
      ", ".intercalate (generated.fields.map (·.name)) ++ "\x7d)"⟩,
    ⟨true, "String", "toString", "\"" ++ generated.name.simpleName ++ "\x7b\"" ++
      descriptionParts generated.fields ++ " + \"\x7d\""⟩]

/-- All methods without parameters in the body of a class. -/
def nullaryMethods : List NullaryMethod :=
  generated.accessorMethods ++ generated.overridingMethods

/-- Methods, each with an empty line before it. -/
def methodLines (methods : List NullaryMethod) : List SourceLine :=
  methods.flatMap fun method => blank ++ method.lines

theorem methodLines_accessorMethods :
    methodLines generated.accessorMethods = generated.fields.flatMap accessorLines :=
  List.flatMap_map ..

theorem methodLines_overridingMethods :
    methodLines generated.overridingMethods =
      blank ++ hashCodeLines generated.fields ++
        (blank ++ toStringLines generated.name.simpleName generated.fields) := by
  have hash (names : String) :
      "return " ++ ("java.util.Arrays.deepHashCode(new Object[] \x7b" ++ names ++ "\x7d)") ++ ";" =
        "return java.util.Arrays.deepHashCode(new Object[] \x7b" ++ names ++ "\x7d);" := by
    have opened : "return java.util.Arrays.deepHashCode(new Object[] \x7b" =
        "return " ++ "java.util.Arrays.deepHashCode(new Object[] \x7b" := rfl
    have closed : "\x7d);" = "\x7d)" ++ ";" := rfl
    rw [opened, closed]
    simp only [String.append_assoc]
  have text (simple parts : String) :
      "return " ++ ("\"" ++ simple ++ "\x7b\"" ++ parts ++ " + \"\x7d\"") ++ ";" =
        "return \"" ++ simple ++ "\x7b\"" ++ parts ++ " + \"\x7d\";" := by
    have opened : "return \"" = "return " ++ "\"" := rfl
    have closed : " + \"\x7d\";" = " + \"\x7d\"" ++ ";" := rfl
    rw [opened, closed]
    simp only [String.append_assoc]
  unfold methodLines overridingMethods
  rw [List.flatMap_cons, List.flatMap_singleton, NullaryMethod.lines, NullaryMethod.lines, hash,
    text]
  rfl

/-- The members of a class are its fields, its constructor, `equals`, which has a parameter, and
the methods without parameters. -/
theorem memberLines_eq :
    generated.memberLines =
      fieldLines generated.fields ++
        constructorLines generated.name.simpleName generated.fields ++
        methodLines generated.accessorMethods ++ blank ++ generated.equalsMethod.lines ++
        methodLines generated.overridingMethods := by
  rw [memberLines, methodLines_accessorMethods, methodLines_overridingMethods, lines_equalsMethod]
  simp only [List.append_assoc]

end GeneratedClass

/-! ### Their names -/

/-- The names of the methods that every class has besides the accessors. -/
def overriddenNames : List String := ["hashCode", "toString"]

/-- How the methods without parameters in the class for a declaration are called. -/
structure MethodNames (declaration : Declaration) (generated : GeneratedClass) : Prop where
  /-- Each accessor gives one method, and two more follow. -/
  names : generated.nullaryMethods.map (·.name) =
    declaration.accessors.map (·.name) ++ overriddenNames
  /-- The names of the accessors are distinct. -/
  accessors : (declaration.accessors.map (·.name)).Nodup
  /-- The names of all methods are distinct exactly if no accessor is called like one of the two. -/
  nodup_iff : (generated.nullaryMethods.map (·.name)).Nodup ↔
    ∀ accessor ∈ declaration.accessors, accessor.name ∉ overriddenNames

section Names

variable {declaration : Declaration} {generated : GeneratedClass}

theorem NamedByAccessors.map_name (named : NamedByAccessors declaration generated) :
    generated.fields.map (·.name) =
      (declaration.accessors.map (·.name)).map FieldName.ofAccessor := by
  rw [List.map_map]
  exact map_eq_map_of_forall₂ named fun _ _ here => here.1

theorem NamedByAccessors.map_accessor (named : NamedByAccessors declaration generated) :
    generated.fields.map (·.accessor) = declaration.accessors.map (·.name) :=
  map_eq_map_of_forall₂ named fun _ _ here => here.2

/-- Accessors of one name would give fields of one name. -/
theorem StandsFor.nodup_accessors (standsFor : StandsFor declaration generated) :
    (declaration.accessors.map (·.name)).Nodup := by
  have apart := standsFor.apart
  rw [standsFor.named.map_name] at apart
  exact apart.of_map

theorem methodNames_of_standsFor (standsFor : StandsFor declaration generated) :
    MethodNames declaration generated := by
  have names : generated.nullaryMethods.map (·.name) =
      declaration.accessors.map (·.name) ++ overriddenNames := by
    rw [← standsFor.named.map_accessor, GeneratedClass.nullaryMethods, List.map_append,
      GeneratedClass.accessorMethods, List.map_map]
    rfl
  have accessors := standsFor.nodup_accessors
  refine ⟨names, accessors, ?_⟩
  rw [names, List.nodup_append']
  constructor
  · rintro ⟨_, _, apart⟩ accessor member
    exact apart (List.mem_map_of_mem member)
  · intro free
    refine ⟨accessors, by decide, fun name isAccessor => ?_⟩
    obtain ⟨accessor, member, rfl⟩ := List.mem_map.mp isAccessor
    exact free accessor member

end Names

/-! ### The methods in a tree -/

/-- How the methods without parameters are called in the classes in the tree for a declaration. -/
structure MethodsOfTree (repository : Repository) (declaration : Declaration)
    (outer : GeneratedClass) : Prop where
  /-- The members of each class are written in the unit. -/
  written : ∀ generated ∈ outer.preorder, ∀ options,
    LinesWithin generated.memberLines (outer.unitLines options)
  /-- The methods without parameters are among them, and the only further method has one. -/
  members : ∀ generated ∈ outer.preorder, generated.memberLines =
    GeneratedClass.fieldLines generated.fields ++
      GeneratedClass.constructorLines generated.name.simpleName generated.fields ++
      GeneratedClass.methodLines generated.accessorMethods ++ blank ++
      generated.equalsMethod.lines ++ GeneratedClass.methodLines generated.overridingMethods
  /-- In each class the accessors of its declaration decide on whether all names are distinct. -/
  names : List.Forall₂ MethodNames (repository.nest declaration).declarations outer.preorder

/-- Whatever the cache holds, this is how methods are called in a tree that has been put together
for any declaration. -/
theorem methodsOfTree_synthesize (repository : Repository) (suffix : String) (cache : NameCache)
    (declaration : Declaration) (outer : GeneratedClass)
    (made : (((Resolver.remembering repository suffix).synthesize declaration).run cache).1 =
      .ok outer) :
    MethodsOfTree repository declaration outer where
  written generated member _ :=
    (outer.memberLines_within_lines false generated member).append_left _
  members generated _ := generated.memberLines_eq
  names := (Resolver.standsFor_preorder made).imp fun _ _ => methodNames_of_standsFor

/-- A marked interface with an accessor that is called like another method, and one without nested
in it. -/
def digestRepository : Repository :=
  let digest := (Declaration.interface "pkg" "DigestPOJO").withMarker .plain
  let block := (Declaration.interface "pkg" "Block").nestIn digest
  ⟨[digest.withAccessor ⟨"hashCode", "int"⟩, block.withAccessor ⟨"getSize", "long"⟩], by decide⟩

/-- What comes of the marked interface, once the name of the one nested in it has been asked for. -/
def digestOutcome : Except GenerationError GeneratedClass :=
  (((Resolver.remembering digestRepository "POJO").synthesize
      digestRepository.declarations[0]).run
    (NameCache.after digestRepository "POJO" [(.strict, digestRepository.declarations[1])])).1

/-- There is a tree for the marked interface, and these are its methods without parameters. -/
theorem exists_digestOutcome :
    ∃ outer, digestOutcome = .ok outer ∧
      outer.nullaryMethods.map (·.name) = ["hashCode", "hashCode", "toString"] := by
  have told : digestOutcome.map (fun outer => outer.nullaryMethods.map (·.name)) =
      .ok ["hashCode", "hashCode", "toString"] := by
    decide +kernel
  exact exists_of_map_eq_ok told

theorem methodsOfTree_synthesize_digest :
    ∃ outer, digestOutcome = .ok outer ∧
      MethodsOfTree digestRepository digestRepository.declarations[0] outer := by
  obtain ⟨outer, made, _⟩ := exists_digestOutcome
  exact ⟨outer, made, methodsOfTree_synthesize digestRepository "POJO"
    (NameCache.after digestRepository "POJO" [(.strict, digestRepository.declarations[1])])
    digestRepository.declarations[0] outer made⟩

/-- Two methods in the body of a class may have one name. -/
theorem method_repeated_digest :
    ∃ outer, digestOutcome = .ok outer ∧
      ∃ generated ∈ outer.preorder, ¬(generated.nullaryMethods.map (·.name)).Nodup := by
  obtain ⟨outer, made, names⟩ := exists_digestOutcome
  refine ⟨outer, made, outer, ?_, ?_⟩
  · cases outer
    rw [GeneratedClass.preorder]
    exact List.mem_cons_self
  · rw [names]
    decide

end ValueGen
