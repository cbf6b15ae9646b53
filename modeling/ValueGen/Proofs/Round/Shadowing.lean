/-
This file says when the class of a unit has the name of a declaration. Names of classes are only
compared with each other, so a unit takes the name that a marker gives or that toggling the suffix
gives also where a declaration has it. Where names are toggled, that takes two declarations whose
names differ by the suffix, or one that is nested in something unknown.
-/

import ValueGen.Proofs.Round.Distinctness

namespace ValueGen

/-! ### Dotted names -/

/-- A simple name behind a package, if the package has a name. -/
def dotted (package simple : String) : String :=
  if package.isEmpty then simple else package ++ "." ++ simple

theorem dotted_append (package simple more : String) :
    dotted package (simple ++ more) = dotted package simple ++ more := by
  rw [dotted, dotted]
  split
  · rfl
  · exact String.append_assoc.symm

theorem GeneratedName.qualified_outer (package simple : String) :
    GeneratedName.qualified ⟨package, simple, []⟩ = dotted package simple := rfl

theorem Declaration.qualifiedName_of_enclosing_eq_none {declaration : Declaration}
    (top : declaration.enclosing = none) :
    declaration.qualifiedName = dotted declaration.package declaration.name := by
  rw [qualifiedName, top]
  rfl

/-! ### Shadowed declarations -/

/-- The ways in which the class of a task has the name of a declaration. -/
inductive Shadows (suffix : String) (task shadowed : Declaration) : Prop
  /-- The marker gives the name. -/
  | named {name : String} (given : Naming.givenName? task = some name)
    (same : shadowed.qualifiedName = dotted task.package name)
  /-- The name of the task is that of the declaration with the suffix. -/
  | shorter {base : String} (unnamed : Naming.givenName? task = none) (top : task.enclosing = none)
    (nonEmpty : base ≠ "") (ends : task.name = base ++ suffix)
    (same : task.qualifiedName = shadowed.qualifiedName ++ suffix)
  /-- The name of the declaration is that of the task with the suffix. -/
  | longer (unnamed : Naming.givenName? task = none) (top : task.enclosing = none)
    (other : ∀ base, base ≠ "" → task.name ≠ base ++ suffix)
    (same : shadowed.qualifiedName = task.qualifiedName ++ suffix)
  /-- The task is nested and still stands for an outermost class; the toggled name is in the package
  then. -/
  | nested {enclosing : String} (unnamed : Naming.givenName? task = none)
    (nested : task.enclosing = some enclosing)
    (same : shadowed.qualifiedName = dotted task.package (Naming.toggleSuffix suffix task.name))

theorem shadows_iff (suffix : String) (task shadowed : Declaration) :
    Shadows suffix task shadowed ↔
      shadowed.qualifiedName = dotted task.package (Naming.outerName suffix task) := by
  constructor
  · intro shadows
    cases shadows with
    | named given same => rwa [Naming.outerName, given]
    | shorter unnamed top nonEmpty ends same =>
      rw [task.qualifiedName_of_enclosing_eq_none top, ends, dotted_append,
        String.append_left_inj] at same
      rw [Naming.outerName, unnamed, ends, Option.getD_none, Naming.toggleSuffix_append nonEmpty,
        same]
    | longer unnamed top other same =>
      rw [Naming.outerName, unnamed, Option.getD_none, Naming.toggleSuffix_of_ne other,
        dotted_append, same, task.qualifiedName_of_enclosing_eq_none top]
    | nested unnamed _ same => rwa [Naming.outerName, unnamed]
  · intro same
    cases given : Naming.givenName? task with
    | some name =>
      rw [Naming.outerName, given] at same
      exact .named given same
    | none =>
      rw [Naming.outerName, given, Option.getD_none] at same
      cases top : task.enclosing with
      | some enclosing => exact .nested given top same
      | none =>
        have qualified := task.qualifiedName_of_enclosing_eq_none top
        by_cases ends : ∃ base, base ≠ "" ∧ task.name = base ++ suffix
        · obtain ⟨base, nonEmpty, ends⟩ := ends
          rw [ends, Naming.toggleSuffix_append nonEmpty] at same
          refine .shorter given top nonEmpty ends ?_
          rw [qualified, ends, dotted_append, same]
        · have other : ∀ base, base ≠ "" → task.name ≠ base ++ suffix :=
            fun base nonEmpty built => ends ⟨base, nonEmpty, built⟩
          rw [Naming.toggleSuffix_of_ne other, dotted_append, ← qualified] at same
          exact .longer given top other same

/-! ### The whole round -/

namespace Round

open RoundPlan

/-- Which declarations of a repository the units of a round shadow. -/
structure Shadowing (repository : Repository) (config : Config) (now : String)
    (inputs : List repository.Member) (units : List CompilationUnit) : Prop where
  /-- The units are those that are decided on, each for a task of the round. -/
  offered : units.Perm ((decisions repository config now inputs).offers.map Prod.snd)
  tasks : ∀ offer ∈ (decisions repository config now inputs).offers,
    offer.1 ∈ repository.tasks inputs
  /-- A unit has the name of a declaration exactly if its task shadows the declaration. -/
  causes : ∀ offer ∈ (decisions repository config now inputs).offers,
    ∀ declaration ∈ repository.declarations,
      declaration.qualifiedName = offer.2.name.qualified ↔
        Shadows config.suffix offer.1 declaration
  /-- Where no marker gives the name of a declaration, nothing is nested in a declaration that the
  repository does not hold, and no name of a declaration is that of one with the suffix, no unit has
  the name of a declaration. -/
  clear :
    (∀ declaration ∈ repository.declarations, ∀ name, Naming.givenName? declaration = some name →
      repository.get? (dotted declaration.package name) = none) →
    (∀ declaration ∈ repository.declarations, declaration.enclosing.isSome →
      (repository.enclosingOf? declaration).isSome) →
    (∀ first ∈ repository.declarations, ∀ second ∈ repository.declarations,
      first.qualifiedName ≠ second.qualifiedName ++ config.suffix) →
    ∀ unit ∈ units, ∀ declaration ∈ repository.declarations,
      declaration.qualifiedName ≠ unit.name.qualified

/-- Whatever the emitter and the order are, a unit that is offered has the name of a declaration
only if a marker gives that name, if two declarations differ by the suffix, or if its task is nested
in a declaration that the repository does not hold. -/
theorem shadowing_runInOrder (repository : Repository) (config : Config) (now : String)
    (inputs : List repository.Member) {State : Type} (emit : Emitter (StateM State)) (state : State)
    (turns : Turns) :
    Shadowing repository config now inputs
      (((runInOrder repository config now inputs emit.logging turns).run
        (state, [])).2.2.map Prod.fst) := by
  obtain ⟨log, logged, told⟩ := tells_runInOrder repository config now inputs emit state turns
  rw [logged]
  have causes : ∀ offer ∈ (decisions repository config now inputs).offers, ∀ declaration,
      declaration.qualifiedName = offer.2.name.qualified ↔
        Shadows config.suffix offer.1 declaration := by
    intro offer isOffer declaration
    rw [name_of_mem_offers isOffer, GeneratedName.qualified_outer]
    exact (shadows_iff _ _ _).symm
  refine ⟨told.offered, fun offer isOffer => ?_,
    fun offer isOffer declaration _ => causes offer isOffer declaration, ?_⟩
  · obtain ⟨generated, isClass, _⟩ := exists_class_of_mem_offers isOffer
    exact (of_mem_classes_make isClass).1
  · intro unnamed held apart unit member declaration known same
    obtain ⟨offer, isOffer, rfl⟩ := List.mem_map.mp (told.offered.mem_iff.mp member)
    obtain ⟨generated, isClass, _⟩ := exists_class_of_mem_offers isOffer
    obtain ⟨taskKnown, top, _⟩ := task_of_mem_classes isClass
    cases (causes offer isOffer declaration).mp same with
    | named given isName =>
      have found := (repository.get?_eq_some_iff _ _).mpr ⟨known, isName⟩
      cases found.symm.trans (unnamed offer.1 taskKnown _ given)
    | shorter _ _ _ _ differ => exact apart offer.1 taskKnown declaration known differ
    | longer _ _ _ differ => exact apart declaration known offer.1 taskKnown differ
    | nested _ nested _ =>
      have isHeld := held offer.1 taskKnown (by rw [nested]; rfl)
      rw [(repository.enclosingOf?_eq_none_iff offer.1).mpr top] at isHeld
      cases isHeld

/-- In this round a marker gives a name that no declaration has, and what is nested is nested in a
declaration of the repository. -/
theorem shadowing_runInOrder_clashing :
    let declarations := clashingRepository.declarations
    let units := ((runInOrder clashingRepository .default "" clashingRepository.markedMembers
      Emitter.inMemory.logging .backwards).run ([], [])).2.2.map Prod.fst
    (∀ declaration ∈ declarations, ∀ name, Naming.givenName? declaration = some name →
        clashingRepository.get? (dotted declaration.package name) = none) ∧
      (∀ declaration ∈ declarations, declaration.enclosing.isSome →
        (clashingRepository.enclosingOf? declaration).isSome) ∧
      (∀ first ∈ declarations, ∀ second ∈ declarations,
        first.qualifiedName ≠ second.qualifiedName ++ "POJO") ∧
      units.map (·.name.qualified) = ["pkg.User"] ∧
      ∀ unit ∈ units, ∀ declaration ∈ declarations,
        declaration.qualifiedName ≠ unit.name.qualified := by
  intro declarations units
  have unnamed : ∀ declaration ∈ declarations, ∀ name ∈ Naming.givenName? declaration,
      clashingRepository.get? (dotted declaration.package name) = none := by
    decide +kernel
  have held : ∀ declaration ∈ declarations, declaration.enclosing.isSome →
      (clashingRepository.enclosingOf? declaration).isSome := by
    decide +kernel
  have apart : ∀ first ∈ declarations, ∀ second ∈ declarations,
      first.qualifiedName ≠ second.qualifiedName ++ "POJO" := by
    decide +kernel
  have clear := (shadowing_runInOrder clashingRepository .default ""
    clashingRepository.markedMembers Emitter.inMemory [] .backwards).clear unnamed held apart
  exact ⟨unnamed, held, apart, by decide +kernel, clear⟩

/-- A marked interface, and another one that has its name with the suffix. -/
def toggledRepository : Repository :=
  let user := (Declaration.interface "pkg" "User").withMarker .plain
  let toggled := Declaration.interface "pkg" "UserPOJO"
  ⟨[user, toggled], by decide⟩

/-- A round may report no error and offer a unit with the name of a declaration. -/
theorem unit_shadows_toggled :
    ((run toggledRepository .default "" Emitter.inMemory).run []).1 =
        ⟨[⟨"pkg", "UserPOJO", []⟩], [], []⟩ ∧
      ∃ unit ∈ ((run toggledRepository .default "" Emitter.inMemory).run []).2,
        ∃ declaration ∈ toggledRepository.declarations,
          unit.name.qualified = declaration.qualifiedName := by
  decide +kernel

end Round

end ValueGen
