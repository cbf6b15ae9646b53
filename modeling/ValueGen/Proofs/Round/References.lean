/-
This file says what the types in the classes of a round without errors mention. A name in a type is
replaced by a lenient search, which names every declaration within a marked one, whatever its
shape, while only interfaces within interfaces have a class. So what takes the place of a name is
the name of a class that is written exactly where some declaration with that generated name has
nothing but interfaces around it.
-/

import ValueGen.Proofs.Round.Embedding

namespace ValueGen.Round

open Repository

/-- What takes the place of the name of a declaration in a type, where a lenient search finds a
generated name for it. -/
structure Reference (repository : Repository) (suffix name : String) (mentioned : Declaration)
    (target : GeneratedName) : Prop where
  /-- It is the generated name. -/
  substituted : ((Resolver.direct repository suffix).substitute name).run = target.qualified
  /-- The class of the declaration is written exactly if nothing but interfaces is around it. -/
  written : (∃ other ∈ (RoundPlan.make repository suffix repository.markedMembers).allClasses,
      other.source = mentioned.qualifiedName) ↔ repository.SurroundedByInterfaces mentioned
  /-- A class with the generated name is written exactly if some declaration with that generated
  name has nothing but interfaces around it. -/
  named : (∃ other ∈ (RoundPlan.make repository suffix repository.markedMembers).allClasses,
      other.name.qualified = target.qualified) ↔
    ∃ other ∈ repository.declarations, repository.SurroundedByInterfaces other ∧
      ∃ otherTarget, Naming.resolve repository suffix .lenient other = .ok (some otherTarget) ∧
        otherTarget.qualified = target.qualified

/-- What the types in a written class mention, given the declaration that it is made from. -/
structure TypesRewritten (repository : Repository) (suffix : String) (declaration : Declaration)
    (generated : GeneratedClass) : Prop where
  source : generated.source = declaration.qualifiedName
  /-- The names in the types are those in the types as written, each replaced on its own. -/
  replaced : generated.typeNames = declaration.typeNames.map fun name =>
    ((Resolver.direct repository suffix).substitute name).run
  references : ∀ name ∈ declaration.typeNames, ∀ mentioned,
    repository.get? name = some mentioned → ∀ target,
      Naming.resolve repository suffix .lenient mentioned = .ok (some target) →
        Reference repository suffix name mentioned target

/-- In a round without errors every class that is written is made from a declaration, and what its
types mention is written exactly where nothing but interfaces is around it. -/
theorem typesRewritten_run (repository : Repository) (config : Config) (now : String)
    {State : Type} (emit : Emitter (StateM State)) (state : State)
    (errorFree : ((run repository config now emit).run state).1.errors = []) :
    ∀ generated ∈ (RoundPlan.make repository config.suffix repository.markedMembers).allClasses,
      ∃ declaration ∈ repository.declarations,
        TypesRewritten repository config.suffix declaration generated := by
  obtain ⟨_, succeeds, _⟩ := of_errors_eq_nil errorFree
  intro generated written
  obtain ⟨declaration, member, made, _⟩ := exists_of_mem_allClasses written
  refine ⟨declaration, member, made.source_eq, made.typeNames_eq, ?_⟩
  intro name _ mentioned found target named
  refine ⟨Resolver.run_substitute_of_named repository config.suffix found named, ?_,
    exists_name_iff succeeds (·.qualified = target.qualified)⟩
  rw [exists_source_iff succeeds ((get?_eq_some_iff _ _ _).mp found).1]
  exact ⟨fun ⟨surrounded, _⟩ => surrounded, fun surrounded => ⟨surrounded, target, named⟩⟩

/-- A marked interface with accessors for an interface and for an enumeration nested in it. -/
def kindRepository : Repository :=
  let user := (Declaration.interface "pkg" "UserPOJO").withMarker .plain
  let address := (Declaration.interface "pkg" "Address").nestIn user
  let kind := (Declaration.new "pkg" "Kind" .other).nestIn user
  let user := user.withAccessor ⟨"address", "pkg.UserPOJO.Address"⟩
  let user := user.withAccessor ⟨"kind", "pkg.UserPOJO.Kind"⟩
  ⟨[user, address, kind], by decide⟩

theorem typesRewritten_run_kind :
    ((run kindRepository .default "" Emitter.inMemory).run []).1.errors = [] ∧
      ∀ generated ∈ (RoundPlan.make kindRepository "POJO" kindRepository.markedMembers).allClasses,
        ∃ declaration ∈ kindRepository.declarations,
          TypesRewritten kindRepository "POJO" declaration generated :=
  ⟨by decide +kernel,
    typesRewritten_run kindRepository .default "" Emitter.inMemory [] (by decide +kernel)⟩

/-- A round may report no error and write a class with a field whose type is not there. -/
theorem reference_dangling_kind :
    ((run kindRepository .default "" Emitter.inMemory).run []).1.errors = [] ∧
      (∃ kind ∈ kindRepository.declarations, kind.qualifiedName = "pkg.UserPOJO.Kind" ∧
        Naming.resolve kindRepository "POJO" .lenient kind =
          .ok (some ⟨"pkg", "User", ["Kind"]⟩)) ∧
      (∃ generated ∈ (RoundPlan.make kindRepository "POJO" kindRepository.markedMembers).allClasses,
        ∃ field ∈ generated.fields, field.accessor = "kind" ∧
          field.type = .named (⟨"pkg", "User", ["Kind"]⟩ : GeneratedName).qualified) ∧
      ∀ other ∈ (RoundPlan.make kindRepository "POJO" kindRepository.markedMembers).allClasses,
        other.name.qualified ≠ (⟨"pkg", "User", ["Kind"]⟩ : GeneratedName).qualified := by
  refine ⟨?_, ?_, ?_, ?_⟩
  · decide +kernel
  · decide +kernel
  · decide +kernel
  · decide +kernel

end ValueGen.Round
