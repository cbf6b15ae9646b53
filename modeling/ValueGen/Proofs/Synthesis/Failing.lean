/-
This file says when a class tree cannot be put together, and what the error is. For each declaration
a list of checks is made: it has a strict name, the bounds of its type parameters are types, so are
the types of its accessors, and no field repeats an earlier one. The declarations embedded in a root
are checked one after another, each before those nested in it. The tree is there exactly where all
checks pass; otherwise the error is that of the first check that fails. Since each class is named
within the one around it, only the root can be without a name.
-/

import ValueGen.Proofs.Synthesis.Mirroring

namespace ValueGen

/-! ### What is checked -/

/-- Something that is checked of a declaration. -/
inductive Check
  /-- The declaration has a strict name. -/
  | name
  /-- The text of a bound is that of a type. -/
  | bound (text : String)
  /-- An accessor returns what is the text of a type. -/
  | returnType (accessor : Accessor)
  /-- The field of an accessor is not that of one of the accessors before it. -/
  | field (before : List Accessor) (accessor : Accessor)

/-- The name of the field of an accessor. -/
def Accessor.fieldName (accessor : Accessor) : String := FieldName.ofAccessor accessor.name

/-- The error that a declaration gives for a check, if it does not pass. -/
def Check.failure? (repository : Repository) (suffix : String) (declaration : Declaration) :
    Check → Option GenerationError
  | name => errorOf? (Naming.resolve repository suffix .strict declaration)
  | bound text =>
    (errorOf? (TypeExpr.parse declaration.scope text)).map
      (.invalidType declaration.qualifiedName)
  | returnType accessor =>
    (errorOf? (TypeExpr.parse declaration.scope accessor.returnType)).map
      (.invalidType (Resolver.memberName declaration accessor.name))
  | field before accessor =>
    if accessor.fieldName ∈ before.map (·.fieldName) then
      some (.duplicateField (Resolver.memberName declaration accessor.name) accessor.fieldName)
    else none

/-- The checks that the fields of some accessors are all different, and different from those of the
accessors before them; these are given from the last one back. -/
def fieldChecks (before : List Accessor) : List Accessor → List Check
  | [] => []
  | accessor :: rest => .field before accessor :: fieldChecks (accessor :: before) rest

/-- What is checked of a declaration on its own, in order. -/
def Declaration.checks (declaration : Declaration) : List Check :=
  .name :: (declaration.typeParameters.flatMap (fun parameter => parameter.bounds.map .bound) ++
    (declaration.accessors.map .returnType ++ fieldChecks [] declaration.accessors))

/-- What is checked of the declarations embedded in a root, in order. -/
def Repository.checks (repository : Repository) (root : Declaration) :
    List (Declaration × Check) :=
  (repository.nest root).declarations.flatMap fun inside =>
    inside.checks.map fun check => (inside, check)

/-! ### The error of one declaration -/

namespace Resolver

variable (repository : Repository) (suffix : String) (declaration : Declaration)

/-- A strict search never ends without a name and without an error. -/
theorem errorOf?_strictName :
    errorOf? ((direct repository suffix).strictName declaration).run =
      errorOf? (Naming.resolve repository suffix .strict declaration) := by
  rw [NameCache.run_strictName_direct]
  cases marker : repository.markerOf? (repository.outermost declaration) with
  | none =>
    rw [Naming.resolve_strict_of_outermost_unmarked suffix marker]
    rfl
  | some effective =>
    rw [Naming.resolve_of_outermost_marked suffix .strict (by rw [marker]; rfl)]
    rfl

theorem errorOf?_synthesizeTypeParameters :
    errorOf? ((direct repository suffix).synthesizeTypeParameters declaration).run.run =
      (declaration.typeParameters.flatMap fun parameter =>
        parameter.bounds.map Check.bound).findSome?
          (Check.failure? repository suffix declaration) := by
  have parsed : errorOf? declaration.parseTypeParameters =
      declaration.typeParameters.findSome? fun parameter =>
        parameter.bounds.findSome? fun text =>
          errorOf? (TypeExpr.parse declaration.scope text) := by
    rw [Declaration.parseTypeParameters, errorOf?_mapM]
    refine congrArg (declaration.typeParameters.findSome? ·) (funext fun parameter => ?_)
    rw [Declaration.parseTypeParameter, errorOf?_bind_of_total _ fun _ => rfl, errorOf?_mapM]
  have thrown : errorOf? ((direct repository suffix).synthesizeTypeParameters declaration).run.run =
      (errorOf? declaration.parseTypeParameters).map (.invalidType declaration.qualifiedName) := by
    unfold synthesizeTypeParameters
    cases declaration.parseTypeParameters with
    | error cause => rfl
    | ok parameters => rfl
  rw [thrown, parsed, List.map_findSome?, findSome?_flatMap]
  refine congrArg (declaration.typeParameters.findSome? ·) (funext fun parameter => ?_)
  rw [Function.comp_apply, List.map_findSome?, List.findSome?_map]
  rfl

theorem errorOf?_synthesizeField (accessor : Accessor) :
    errorOf? ((direct repository suffix).synthesizeField declaration accessor).run.run =
      (Check.returnType accessor).failure? repository suffix declaration := by
  unfold synthesizeField
  rw [Check.failure?]
  cases TypeExpr.parse declaration.scope accessor.returnType with
  | error cause => rfl
  | ok type => rfl

/-- The first field that repeats an earlier one stands for the first accessor that fails. -/
theorem clashingField?_eq_findSome? {accessors : List Accessor} {fields : List GeneratedField}
    (made : List.Forall₂ (FieldOf repository suffix declaration) accessors fields)
    (before : List Accessor) :
    ((GeneratedClass.clashingField? (before.map (·.fieldName)) fields).map fun clash =>
        GenerationError.duplicateField (memberName declaration clash.accessor) clash.name) =
      (fieldChecks before accessors).findSome? (Check.failure? repository suffix declaration) := by
  induction made generalizing before with
  | nil => rfl
  | @cons accessor field _ _ here _ inductionHypothesis =>
    have name : field.name = accessor.fieldName := here.name
    rw [GeneratedClass.clashingField?, fieldChecks, findSome?_cons_eq_or, Check.failure?, name]
    split
    · rw [Option.map_some, Option.some_or, here.returns, name]
    · rw [Option.none_or, ← inductionHypothesis (accessor :: before), List.map_cons]

/-- A declaration on its own gives the error of the first of its checks that fails. -/
theorem errorOf?_synthesizeAlone :
    errorOf? ((direct repository suffix).synthesizeAlone declaration).run.run =
      declaration.checks.findSome? (Check.failure? repository suffix declaration) := by
  rw [Declaration.checks, findSome?_cons_eq_or, List.findSome?_append, List.findSome?_append]
  unfold synthesizeAlone
  rw [run_bind_eq, Check.failure?, ← errorOf?_strictName]
  refine errorOf?_bind fun name _ => ?_
  rw [run_bind_eq, ← errorOf?_synthesizeTypeParameters]
  refine errorOf?_bind fun typeParameters _ => ?_
  have returnTypes : errorOf? (declaration.accessors.mapM
      ((direct repository suffix).synthesizeField declaration)).run.run =
        (declaration.accessors.map Check.returnType).findSome?
          (Check.failure? repository suffix declaration) := by
    rw [run_mapM_eq, errorOf?_mapM, List.findSome?_map]
    exact congrArg (declaration.accessors.findSome? ·)
      (funext (errorOf?_synthesizeField repository suffix declaration))
  rw [run_bind_eq, ← returnTypes]
  refine errorOf?_bind fun fields made => ?_
  rw [← clashingField?_eq_findSome? repository suffix declaration
    ((run_mapM_eq_ok_iff.mp made).imp fun _ _ => fieldOf_of_synthesizeField) [], List.map_nil]
  cases GeneratedClass.clashingField? [] fields with
  | some clash => rfl
  | none => rfl

/-- Putting a class together gives the error of the first check that fails. -/
theorem errorOf?_synthesize (root : Declaration) :
    errorOf? ((direct repository suffix).synthesize root).run =
      (repository.checks root).findSome? fun entry =>
        entry.2.failure? repository suffix entry.1 := by
  rw [Repository.checks, findSome?_flatMap]
  refine (errorOf?_synthesizeNest repository suffix (repository.nest root)).trans ?_
  refine congrArg ((repository.nest root).declarations.findSome? ·) (funext fun inside => ?_)
  rw [errorOf?_synthesizeAlone, List.findSome?_map]
  rfl

end Resolver

/-! ### Where all checks pass -/

variable {repository : Repository} {suffix : String}

/-- The types of a declaration can be read, and its fields have different names. -/
structure Declaration.WellFormed (declaration : Declaration) : Prop where
  bounds : ∀ parameter ∈ declaration.typeParameters, ∀ text ∈ parameter.bounds,
    ∃ type, TypeExpr.parse declaration.scope text = .ok type
  returnTypes : ∀ accessor ∈ declaration.accessors,
    ∃ type, TypeExpr.parse declaration.scope accessor.returnType = .ok type
  fields : (declaration.accessors.map (·.fieldName)).Nodup

/-- The checks of fields pass where no name repeats an earlier one. -/
theorem fieldChecks_pass_iff (declaration : Declaration) (before accessors : List Accessor) :
    (∀ check ∈ fieldChecks before accessors,
        check.failure? repository suffix declaration = none) ↔
      (accessors.map (·.fieldName)).Nodup ∧
        ∀ accessor ∈ accessors, accessor.fieldName ∉ before.map (·.fieldName) := by
  induction accessors generalizing before with
  | nil => simp [fieldChecks]
  | cons accessor rest inductionHypothesis =>
    have first : Check.failure? repository suffix declaration (.field before accessor) = none ↔
        accessor.fieldName ∉ before.map (·.fieldName) := by
      rw [Check.failure?, ite_eq_right_iff]
      exact ⟨fun passes taken => (by cases passes taken), fun free taken => absurd taken free⟩
    have others : (∀ other ∈ rest, other.fieldName ∉ (accessor :: before).map (·.fieldName)) ↔
        accessor.fieldName ∉ rest.map (·.fieldName) ∧
          ∀ other ∈ rest, other.fieldName ∉ before.map (·.fieldName) := by
      rw [List.map_cons]
      simp only [List.mem_cons, not_or, forall_and]
      refine and_congr_left' ⟨fun differ taken => ?_, fun free other member same => ?_⟩
      · obtain ⟨other, member, same⟩ := List.mem_map.mp taken
        exact differ other member same
      · exact free (List.mem_map.mpr ⟨other, member, same⟩)
    rw [fieldChecks, List.forall_mem_cons, inductionHypothesis, first, others, List.map_cons,
      List.nodup_cons, List.forall_mem_cons]
    exact ⟨fun ⟨free, different, apart, further⟩ => ⟨⟨apart, different⟩, free, further⟩,
      fun ⟨⟨apart, different⟩, free, further⟩ => ⟨free, different, apart, further⟩⟩

/-- All checks of a declaration pass where it has a strict name and is well-formed. -/
theorem Declaration.checks_pass_iff (declaration : Declaration) :
    (∀ check ∈ declaration.checks, check.failure? repository suffix declaration = none) ↔
      (∃ answer, Naming.resolve repository suffix .strict declaration = .ok answer) ∧
        declaration.WellFormed := by
  rw [Declaration.checks, List.forall_mem_cons, List.forall_mem_append, List.forall_mem_append,
    List.forall_mem_flatMap, fieldChecks_pass_iff, Check.failure?, errorOf?_eq_none_iff]
  simp only [List.forall_mem_map, Check.failure?, Option.map_eq_none_iff, errorOf?_eq_none_iff]
  refine and_congr_right fun _ => ⟨?_, ?_⟩
  · rintro ⟨bounds, returnTypes, fields, _⟩
    exact ⟨bounds, returnTypes, fields⟩
  · rintro ⟨bounds, returnTypes, fields⟩
    exact ⟨bounds, returnTypes, fields, fun _ _ taken => (by cases taken)⟩

/-! ### The first check that fails -/

/-- What comes of putting a class together for a root, in terms of what is checked. -/
structure FirstFailing (repository : Repository) (suffix : String) (root : Declaration)
    (outcome : Except GenerationError GeneratedClass) : Prop where
  /-- There is a class exactly where the root has a strict name and all that is embedded in it is
  well-formed. -/
  succeeds : (∃ generated, outcome = .ok generated) ↔
    (∃ name, Naming.resolve repository suffix .strict root = .ok (some name)) ∧
      ∀ inside, repository.EmbeddedIn root inside → inside.WellFormed
  /-- Otherwise the error is that of the first check that fails. -/
  fails : ∀ error, outcome = .error error ↔
    ∃ passed inside check rest, repository.checks root = passed ++ (inside, check) :: rest ∧
      (∀ entry ∈ passed, entry.2.failure? repository suffix entry.1 = none) ∧
        check.failure? repository suffix inside = some error
  /-- What is checked is each declaration that is embedded in the root. -/
  checked : ∀ inside check, (inside, check) ∈ repository.checks root ↔
    repository.EmbeddedIn root inside ∧ check ∈ inside.checks
  /-- A declaration is checked before the interfaces nested in it, and these in the order of
  discovery. -/
  order : ∀ inside, repository.checks inside =
    (inside.checks.map fun check => (inside, check)) ++
      (repository.declarations.filter fun inner =>
        inner.enclosing = some inside.qualifiedName ∧ inner.kind = .interface).flatMap
          repository.checks
  /-- Where the root has a name, so has all that is embedded in it. -/
  named : (∃ name, Naming.resolve repository suffix .strict root = .ok (some name)) →
    ∀ inside, repository.EmbeddedIn root inside →
      ∃ name, Naming.resolve repository suffix .strict inside = .ok (some name)
  /-- A missing marker is always the reason why the root has no name. -/
  missingMarker : ∀ around, outcome = .error (.missingMarker around) →
    Naming.resolve repository suffix .strict root = .error (.missingMarker around)

namespace Repository

theorem mem_checks_iff {root : Declaration} (member : root ∈ repository.declarations)
    (inside : Declaration) (check : Check) :
    (inside, check) ∈ repository.checks root ↔
      repository.EmbeddedIn root inside ∧ check ∈ inside.checks := by
  rw [checks, List.mem_flatMap]
  constructor
  · rintro ⟨other, embedded, found⟩
    obtain ⟨_, isCheck, same⟩ := List.mem_map.mp found
    cases same
    exact ⟨(repository.mem_nest_iff_embeddedIn member inside).mp embedded, isCheck⟩
  · rintro ⟨embedded, isCheck⟩
    exact ⟨inside, (repository.mem_nest_iff_embeddedIn member inside).mpr embedded,
      List.mem_map.mpr ⟨check, isCheck, rfl⟩⟩

theorem checks_eq (repository : Repository) (declaration : Declaration) :
    repository.checks declaration =
      (declaration.checks.map fun check => (declaration, check)) ++
        (repository.interfacesIn declaration).flatMap repository.checks := by
  rw [checks, repository.nest_eq, Nest.declarations, Nest.declarationsOfAll_eq_flatMap,
    List.flatMap_map, List.flatMap_cons, List.flatMap_assoc]
  rfl

end Repository

/-- A strict search that succeeds finds a name. -/
theorem Naming.resolve_strict_ok_iff (declaration : Declaration) :
    (∃ answer, resolve repository suffix .strict declaration = .ok answer) ↔
      ∃ name, resolve repository suffix .strict declaration = .ok (some name) := by
  refine ⟨fun ⟨answer, found⟩ => ?_, fun ⟨name, found⟩ => ⟨_, found⟩⟩
  exact ⟨_, resolve_of_outermost_marked suffix .strict (resolve_lenient_of_strict suffix found).1⟩

/-- All checks pass where the root has a strict name and all that is embedded in it is
well-formed. -/
theorem Repository.checks_pass_iff {root : Declaration} (member : root ∈ repository.declarations) :
    (∀ entry ∈ repository.checks root, entry.2.failure? repository suffix entry.1 = none) ↔
      (∃ name, Naming.resolve repository suffix .strict root = .ok (some name)) ∧
        ∀ inside, repository.EmbeddedIn root inside → inside.WellFormed := by
  constructor
  · intro passes
    have each : ∀ inside, repository.EmbeddedIn root inside →
        (∃ answer, Naming.resolve repository suffix .strict inside = .ok answer) ∧
          inside.WellFormed := fun inside embedded =>
      inside.checks_pass_iff.mp fun check isCheck =>
        passes (inside, check) ((mem_checks_iff member inside check).mpr ⟨embedded, isCheck⟩)
    exact ⟨(Naming.resolve_strict_ok_iff root).mp (each root .itself).1,
      fun inside embedded => (each inside embedded).2⟩
  · rintro ⟨⟨name, named⟩, wellFormed⟩ ⟨inside, check⟩ found
    obtain ⟨embedded, isCheck⟩ := (mem_checks_iff member inside check).mp found
    obtain ⟨_, insideNamed, _⟩ :=
      Naming.exists_resolve_of_embeddedIn suffix .strict embedded named
    exact inside.checks_pass_iff.mpr ⟨⟨_, insideNamed⟩, wellFormed inside embedded⟩ check isCheck

/-- Where a check ends in a missing marker, a strict search does. -/
theorem Check.resolve_of_missingMarker {declaration : Declaration} {check : Check} {around : String}
    (fails : check.failure? repository suffix declaration = some (.missingMarker around)) :
    Naming.resolve repository suffix .strict declaration = .error (.missingMarker around) := by
  cases check with
  | name => exact errorOf?_eq_some_iff.mp fails
  | bound text =>
    obtain ⟨_, _, other⟩ := Option.map_eq_some_iff.mp fails
    cases other
  | returnType accessor =>
    obtain ⟨_, _, other⟩ := Option.map_eq_some_iff.mp fails
    cases other
  | field before accessor =>
    rw [failure?] at fails
    split at fails
    · cases fails
    · cases fails

/-- Putting a class together ends in the first check that fails. -/
theorem firstFailing_synthesize (suffix : String) {root : Declaration}
    (member : root ∈ repository.declarations) :
    FirstFailing repository suffix root
      ((Resolver.direct repository suffix).synthesize root).run := by
  have outcomeError := Resolver.errorOf?_synthesize repository suffix root
  have named : (∃ name, Naming.resolve repository suffix .strict root = .ok (some name)) →
      ∀ inside, repository.EmbeddedIn root inside →
        ∃ name, Naming.resolve repository suffix .strict inside = .ok (some name) := by
    rintro ⟨name, rootNamed⟩ inside embedded
    obtain ⟨_, insideNamed, _⟩ :=
      Naming.exists_resolve_of_embeddedIn suffix .strict embedded rootNamed
    exact ⟨_, insideNamed⟩
  refine ⟨?_, fun error => ?_, repository.mem_checks_iff member, fun inside => ?_, named,
    fun around fails => ?_⟩
  · rw [← errorOf?_eq_none_iff, outcomeError, List.findSome?_eq_none_iff]
    exact Repository.checks_pass_iff member
  · rw [← errorOf?_eq_some_iff, outcomeError, List.findSome?_eq_some_iff]
    constructor
    · rintro ⟨passed, ⟨inside, check⟩, rest, split, fails, passes⟩
      exact ⟨passed, inside, check, rest, split, passes, fails⟩
    · rintro ⟨passed, inside, check, rest, split, passes, fails⟩
      exact ⟨passed, (inside, check), rest, split, fails, passes⟩
  · rw [← repository.interfacesIn_eq_filter]
    exact repository.checks_eq inside
  · rw [← errorOf?_eq_some_iff, outcomeError] at fails
    cases rootOutcome : Naming.resolve repository suffix .strict root with
    | error error =>
      -- The name of the root is what is checked first.
      rw [repository.checks_eq, Declaration.checks, List.map_cons, List.cons_append,
        findSome?_cons_eq_or, Check.failure?, rootOutcome, errorOf?, Option.some_or] at fails
      rw [Option.some.inj fails]
    | ok answer =>
      obtain ⟨⟨inside, check⟩, found, checkFails⟩ := List.exists_of_findSome?_eq_some fails
      have embedded := ((repository.mem_checks_iff member inside check).mp found).1
      obtain ⟨_, insideNamed⟩ := named
        ((Naming.resolve_strict_ok_iff root).mp ⟨answer, rootOutcome⟩) inside embedded
      cases insideNamed.symm.trans (Check.resolve_of_missingMarker checkFails)

/-- Whatever has been asked for before, putting a class together ends in the first check that
fails. -/
theorem firstFailing_synthesize_after (repository : Repository) (suffix : String)
    (earlier : List (Strictness × Declaration))
    (known : ∀ call ∈ earlier, call.2 ∈ repository.declarations) (root : Declaration)
    (member : root ∈ repository.declarations) :
    FirstFailing repository suffix root
      (((Resolver.remembering repository suffix).synthesize root).run
        (NameCache.after repository suffix earlier)).1 := by
  rw [(NameCache.yields_synthesize member _ (NameCache.sound_after suffix earlier known)).1]
  exact firstFailing_synthesize suffix member

/-- A marked interface with two interfaces nested in it. The one that was discovered last has an
accessor that returns no type; in the other one there is an interface with two accessors of one
field. -/
def brokenRepository : Repository :=
  let order := ((Declaration.interface "shop" "OrderPOJO").withMarker .plain).withAccessor
    ⟨"getLines", "java.util.List<shop.OrderPOJO.Line>"⟩
  let note := (Declaration.interface "shop" "Note").nestIn order
  let line := ((Declaration.interface "shop" "Line").nestIn order).withAccessor
    ⟨"getTags", "java.util.List<"⟩
  let status := (((Declaration.interface "shop" "Status").nestIn note).withAccessor
    ⟨"isOpen", "boolean"⟩).withAccessor ⟨"getOpen", "boolean"⟩
  ⟨[note, line, status, order], by decide⟩

/-- Putting the marked interface together ends in the first check that fails, once the name of an
interface in it has been asked for. -/
theorem firstFailing_synthesize_broken :
    (∀ call ∈ [(Strictness.lenient, brokenRepository.declarations[1])],
        call.2 ∈ brokenRepository.declarations) ∧
      brokenRepository.declarations[3] ∈ brokenRepository.declarations ∧
      FirstFailing brokenRepository "POJO" brokenRepository.declarations[3]
        (((Resolver.remembering brokenRepository "POJO").synthesize
          brokenRepository.declarations[3]).run (NameCache.after brokenRepository "POJO"
            [(.lenient, brokenRepository.declarations[1])])).1 :=
  ⟨by decide, by decide, firstFailing_synthesize_after brokenRepository "POJO"
    [(.lenient, brokenRepository.declarations[1])] (by decide) brokenRepository.declarations[3]
    (by decide)⟩

/-- What is further in comes before what was discovered later. -/
example :
    errorOf? ((Resolver.direct brokenRepository "POJO").synthesize
        brokenRepository.declarations[3]).run =
      some (.duplicateField "shop.OrderPOJO.Note.Status#getOpen" "open") := by
  decide +kernel

end ValueGen
