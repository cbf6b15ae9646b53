/-
This file says what a class that has been put together consists of. Read from the outside in, its
classes stand one to one for the declarations in the tree of the interfaces that it is made from,
and each of them is what its declaration gives on its own, apart from the classes nested in it. So
the name of a class is the strict name of its declaration, and the names in its types are those of
the types as written, each replaced on its own. Where there is no class, the error is that of the
first declaration in the tree that gives none on its own, and it is one of the checks.
-/

import ValueGen.Proofs.Naming.ClosedForm
import ValueGen.Proofs.Outcomes
import ValueGen.Proofs.Rewriting

namespace ValueGen

/-! ### Classes and what they are made from -/

mutual

/-- A class and the classes in it, each before those nested in it. -/
def GeneratedClass.preorder : GeneratedClass → List GeneratedClass
  | ⟨name, source, typeParameters, fields, nested⟩ =>
    ⟨name, source, typeParameters, fields, nested⟩ :: GeneratedClass.preorderOfAll nested

/-- The classes in several classes in order. -/
def GeneratedClass.preorderOfAll : List GeneratedClass → List GeneratedClass
  | [] => []
  | generated :: rest => generated.preorder ++ GeneratedClass.preorderOfAll rest

end

/-- The names in the types of a class: in the bounds of its type parameters, then in its fields. -/
def GeneratedClass.typeNames (generated : GeneratedClass) : List String :=
  TypeExpr.leavesOfAll generated.typeParameters ++
    generated.fields.flatMap fun field => field.type.leaves

/-- The names in the types of a declaration as they are written, in the same order; a text that
cannot be read has none. -/
def Declaration.typeNames (declaration : Declaration) : List String :=
  (match declaration.parseTypeParameters with
    | .ok parameters => TypeExpr.leavesOfAll parameters
    | .error _ => []) ++
    declaration.accessors.flatMap fun accessor =>
      match TypeExpr.parse declaration.scope accessor.returnType with
      | .ok type => type.leaves
      | .error _ => []

/-- What has been read and rewritten for a class without the classes nested in it. -/
theorem Resolver.parts_of_synthesizeAlone {repository : Repository} {suffix : String}
    {declaration : Declaration} {generated : GeneratedClass}
    (made : ((direct repository suffix).synthesizeAlone declaration).run.run = .ok generated) :
    ((direct repository suffix).strictName declaration).run = .ok generated.name ∧
      generated.source = declaration.qualifiedName ∧
      ((direct repository suffix).synthesizeTypeParameters declaration).run.run =
        .ok generated.typeParameters ∧
      List.Forall₂ (fun accessor field =>
          ((direct repository suffix).synthesizeField declaration accessor).run.run = .ok field)
        declaration.accessors generated.fields ∧
      generated.nested = [] := by
  unfold synthesizeAlone at made
  obtain ⟨name, named, made⟩ := run_bind_eq_ok_iff.mp made
  obtain ⟨typeParameters, parametersMade, made⟩ := run_bind_eq_ok_iff.mp made
  obtain ⟨fields, fieldsMade, made⟩ := run_bind_eq_ok_iff.mp made
  cases clash : GeneratedClass.clashingField? [] fields with
  | some field =>
    rw [clash] at made
    cases made
  | none =>
    rw [clash] at made
    rw [← Except.ok.inj made]
    exact ⟨named, rfl, parametersMade, run_mapM_eq_ok_iff.mp fieldsMade, rfl⟩

/-- A class is generated for a declaration if it is what the declaration gives on its own, apart
from the classes nested in it. -/
def GeneratedFor (repository : Repository) (suffix : String) (declaration : Declaration)
    (generated : GeneratedClass) : Prop :=
  ((Resolver.direct repository suffix).synthesizeAlone declaration).run.run =
    .ok { generated with nested := [] }

namespace GeneratedFor

variable {repository : Repository} {suffix : String} {declaration : Declaration}
  {generated : GeneratedClass}

theorem source_eq (made : GeneratedFor repository suffix declaration generated) :
    generated.source = declaration.qualifiedName :=
  (Resolver.parts_of_synthesizeAlone made).2.1

/-- The name of a class is the strict name of its declaration. -/
theorem resolve_strict (made : GeneratedFor repository suffix declaration generated) :
    Naming.resolve repository suffix .strict declaration = .ok (some generated.name) := by
  have named := (Resolver.parts_of_synthesizeAlone made).1
  rw [NameCache.run_strictName_direct] at named
  rcases found : Naming.resolve repository suffix .strict declaration with error | (none | name)
  · rw [found] at named
    cases named
  · rw [found] at named
    cases named
  · rw [found] at named
    rw [Except.ok.inj named]

theorem resolve_lenient (made : GeneratedFor repository suffix declaration generated) :
    Naming.resolve repository suffix .lenient declaration = .ok (some generated.name) :=
  (Naming.resolve_lenient_of_strict suffix made.resolve_strict).2

/-- A class has one simple name for each member of the ancestry of its declaration, so the outermost
classes are those of the outermost declarations. -/
theorem isTopLevel_iff (made : GeneratedFor repository suffix declaration generated) :
    generated.isTopLevel ↔ repository.outermost declaration = declaration := by
  have strict := made.resolve_strict
  have marked := (Naming.resolve_lenient_of_strict suffix strict).1
  rw [Naming.resolve_of_outermost_marked suffix .strict marked] at strict
  have named := Option.some.inj (Except.ok.inj strict)
  rw [GeneratedClass.isTopLevel, ← named, GeneratedName.isTopLevel, Naming.nameBelow,
    List.isEmpty_iff, List.reverse_eq_nil_iff, List.map_eq_nil_iff,
    repository.dropLast_ancestry_eq_nil_iff]

/-- The names in the types of a class are those of its declaration, each replaced on its own. -/
theorem typeNames_eq (made : GeneratedFor repository suffix declaration generated) :
    generated.typeNames = declaration.typeNames.map fun name =>
      ((Resolver.direct repository suffix).substitute name).run := by
  obtain ⟨_, _, parametersMade, fieldsMade, _⟩ := Resolver.parts_of_synthesizeAlone made
  rw [GeneratedClass.typeNames, Declaration.typeNames, List.map_append]
  congr 1
  · unfold Resolver.synthesizeTypeParameters at parametersMade
    cases parsed : declaration.parseTypeParameters with
    | error cause =>
      rw [parsed] at parametersMade
      cases parametersMade
    | ok parameters =>
      rw [parsed] at parametersMade
      rw [← Except.ok.inj parametersMade]
      exact Resolver.leavesOfAll_rewriteAll repository suffix parameters
  · generalize declaration.accessors = accessors, generated.fields = fields at fieldsMade ⊢
    induction fieldsMade with
    | nil => rfl
    | @cons accessor field _ _ fieldMade _ inductionHypothesis =>
      rw [List.flatMap_cons, List.flatMap_cons, List.map_append, inductionHypothesis]
      congr 1
      unfold Resolver.synthesizeField at fieldMade
      cases parsed : TypeExpr.parse declaration.scope accessor.returnType with
      | error cause =>
        rw [parsed] at fieldMade
        cases fieldMade
      | ok type =>
        rw [parsed] at fieldMade
        rw [← Except.ok.inj fieldMade]
        exact Resolver.leaves_rewrite repository suffix type

end GeneratedFor

/-! ### A class with the classes nested in it -/

namespace Resolver

variable {repository : Repository} {suffix : String}

/-- What a declaration gives on its own is generated for it with any classes nested in it. -/
theorem generatedFor_of_synthesizeAlone {declaration : Declaration} {generated : GeneratedClass}
    (made : ((direct repository suffix).synthesizeAlone declaration).run.run = .ok generated)
    (nested : List GeneratedClass) :
    GeneratedFor repository suffix declaration { generated with nested := nested } := by
  have noNested := (parts_of_synthesizeAlone made).2.2.2.2
  have alone : ({ generated with nested := [] } : GeneratedClass) = generated := by
    cases generated with
    | mk _ _ _ _ _ =>
      cases noNested
      rfl
  exact made.trans (congrArg Except.ok alone.symm)

mutual

/-- The classes in a class stand one to one for the declarations in the tree that it is made
from. -/
theorem generatedFor_of_synthesizeNest : (nest : Nest) → {generated : GeneratedClass} →
    ((direct repository suffix).synthesizeNest nest).run.run = .ok generated →
    List.Forall₂ (GeneratedFor repository suffix) nest.declarations generated.preorder
  | ⟨declaration, inner⟩, generated, made => by
    rw [synthesizeNest] at made
    obtain ⟨alone, aloneMade, made⟩ := run_bind_eq_ok_iff.mp made
    obtain ⟨nested, nestedMade, made⟩ := run_bind_eq_ok_iff.mp made
    rw [← Except.ok.inj made]
    exact .cons (generatedFor_of_synthesizeAlone aloneMade nested)
      (generatedFor_of_synthesizeNests inner nestedMade)

theorem generatedFor_of_synthesizeNests : (nests : List Nest) → {made : List GeneratedClass} →
    ((direct repository suffix).synthesizeNests nests).run.run = .ok made →
    List.Forall₂ (GeneratedFor repository suffix) (Nest.declarationsOfAll nests)
      (GeneratedClass.preorderOfAll made)
  | [], made, found => by
    rw [synthesizeNests] at found
    rw [← Except.ok.inj found]
    exact .nil
  | nest :: rest, made, found => by
    rw [synthesizeNests] at found
    obtain ⟨first, firstMade, found⟩ := run_bind_eq_ok_iff.mp found
    obtain ⟨others, othersMade, found⟩ := run_bind_eq_ok_iff.mp found
    rw [← Except.ok.inj found]
    exact List.rel_append (generatedFor_of_synthesizeNest nest firstMade)
      (generatedFor_of_synthesizeNests rest othersMade)

end

/-- The classes put together for a task stand for the interfaces in it. -/
theorem generatedFor_of_synthesize {task : Declaration} {outer : GeneratedClass}
    (made : ((direct repository suffix).synthesize task).run = .ok outer) :
    List.Forall₂ (GeneratedFor repository suffix) (repository.nest task).declarations
      outer.preorder ∧ GeneratedFor repository suffix task outer := by
  have sideBySide := generatedFor_of_synthesizeNest (repository.nest task) made
  refine ⟨sideBySide, ?_⟩
  rw [Repository.nest_eq] at sideBySide
  cases outer with
  | mk _ _ _ _ _ => exact (List.forall₂_cons.mp sideBySide).1

theorem synthesizeNests_eq_mapM (repository : Repository) (suffix : String) (nests : List Nest) :
    (direct repository suffix).synthesizeNests nests =
      nests.mapM (direct repository suffix).synthesizeNest := by
  induction nests with
  | nil => rw [synthesizeNests, List.mapM_nil]
  | cons nest rest inductionHypothesis =>
    rw [synthesizeNests, List.mapM_cons, inductionHypothesis]

/-- A class is what its declaration gives on its own, with the classes for the interfaces nested
directly in the declaration. -/
theorem run_synthesize_eq_ok_iff {repository : Repository} {suffix : String}
    {declaration : Declaration} {generated : GeneratedClass} :
    ((direct repository suffix).synthesize declaration).run = .ok generated ↔
      ∃ alone nested,
        ((direct repository suffix).synthesizeAlone declaration).run.run = .ok alone ∧
          List.Forall₂ (fun inner made =>
              ((direct repository suffix).synthesize inner).run = .ok made)
            (repository.interfacesIn declaration) nested ∧
          generated = { alone with nested := nested } := by
  have nest : ((direct repository suffix).synthesize declaration).run =
      ((direct repository suffix).synthesizeNest
        ⟨declaration, (repository.interfacesIn declaration).map repository.nest⟩).run.run := by
    rw [← repository.nest_eq]
    rfl
  rw [nest, synthesizeNest, run_bind_eq_ok_iff]
  refine exists_congr fun alone => ?_
  rw [run_bind_eq_ok_iff, exists_and_left]
  refine and_congr_right fun _ => exists_congr fun nested => ?_
  rw [synthesizeNests_eq_mapM, run_mapM_eq_ok_iff, List.forall₂_map_left_iff]
  exact and_congr_right fun _ =>
    ⟨fun same => (Except.ok.inj same).symm, fun same => congrArg Except.ok same.symm⟩

/-! ### The errors -/

/-- An error of putting a class together is about a marker, a type or a field. -/
def IsSynthesisError : GenerationError → Prop
  | .missingMarker _ | .invalidType _ _ | .duplicateField _ _ => True
  | .notAnInterface | .nameCollision _ _ | .emission _ => False

theorem failsOnly_strictName (repository : Repository) (suffix : String)
    (declaration : Declaration) :
    FailsOnly IsSynthesisError
      (ExceptT.mk ((direct repository suffix).strictName declaration)) := by
  intro error fails
  replace fails : ((direct repository suffix).strictName declaration).run = .error error := fails
  rw [NameCache.run_strictName_direct] at fails
  cases marker : repository.markerOf? (repository.outermost declaration) with
  | none =>
    rw [Naming.resolve_strict_of_outermost_unmarked suffix marker] at fails
    cases fails
    trivial
  | some effective =>
    rw [Naming.resolve_of_outermost_marked suffix .strict (by rw [marker]; rfl)] at fails
    cases fails

theorem failsOnly_synthesizeAlone (repository : Repository) (suffix : String)
    (declaration : Declaration) :
    FailsOnly IsSynthesisError ((direct repository suffix).synthesizeAlone declaration) := by
  unfold synthesizeAlone
  refine .bind (failsOnly_strictName repository suffix declaration) fun _ => ?_
  refine .bind ?_ fun _ => .bind (.mapM _ fun accessor => ?_) fun fields => ?_
  · unfold synthesizeTypeParameters
    cases declaration.parseTypeParameters with
    | error cause => exact .throw trivial
    | ok parameters => exact .pure _
  · unfold synthesizeField
    cases TypeExpr.parse declaration.scope accessor.returnType with
    | error cause => exact .throw trivial
    | ok type => exact .pure _
  · cases GeneratedClass.clashingField? [] fields with
    | none => exact .pure _
    | some clash => exact .throw trivial

mutual

/-- A tree gives the error of the first declaration in it that gives no class on its own. -/
theorem errorOf?_synthesizeNest (repository : Repository) (suffix : String) : (nest : Nest) →
    errorOf? ((direct repository suffix).synthesizeNest nest).run.run =
      nest.declarations.findSome? fun inside =>
        errorOf? ((direct repository suffix).synthesizeAlone inside).run.run
  | ⟨declaration, inner⟩ => by
    rw [synthesizeNest, run_bind_eq, Nest.declarations, findSome?_cons_eq_or]
    refine errorOf?_bind fun generated _ => ?_
    rw [run_bind_eq, errorOf?_bind_of_total _ fun _ => rfl]
    exact errorOf?_synthesizeNests repository suffix inner

theorem errorOf?_synthesizeNests (repository : Repository) (suffix : String) :
    (nests : List Nest) →
    errorOf? ((direct repository suffix).synthesizeNests nests).run.run =
      (Nest.declarationsOfAll nests).findSome? fun inside =>
        errorOf? ((direct repository suffix).synthesizeAlone inside).run.run
  | [] => by
    rw [synthesizeNests]
    rfl
  | nest :: rest => by
    rw [synthesizeNests, run_bind_eq, Nest.declarationsOfAll, List.findSome?_append,
      ← errorOf?_synthesizeNest repository suffix nest]
    refine errorOf?_bind fun generated _ => ?_
    rw [run_bind_eq, errorOf?_bind_of_total _ fun _ => rfl]
    exact errorOf?_synthesizeNests repository suffix rest

end

/-- The error of a tree is that of a declaration in it. -/
theorem exists_alone_of_error {nest : Nest} {error : GenerationError}
    (fails : ((direct repository suffix).synthesizeNest nest).run.run = .error error) :
    ∃ inside ∈ nest.declarations,
      ((direct repository suffix).synthesizeAlone inside).run.run = .error error := by
  rw [← errorOf?_eq_some_iff, errorOf?_synthesizeNest] at fails
  obtain ⟨inside, member, alone⟩ := List.exists_of_findSome?_eq_some fails
  exact ⟨inside, member, errorOf?_eq_some_iff.mp alone⟩

theorem failsOnly_synthesizeNest (repository : Repository) (suffix : String) (nest : Nest) :
    FailsOnly IsSynthesisError ((direct repository suffix).synthesizeNest nest) := by
  intro error fails
  obtain ⟨inside, _, alone⟩ := exists_alone_of_error fails
  exact failsOnly_synthesizeAlone repository suffix inside error alone

end Resolver

end ValueGen
