/-
This file says which classes of a round share a name. Each class is made from a declaration of its
own, and the outermost ones have distinct dotted names. Within an outermost class only the names
that markers give can clash, since nothing checks the classes nested in one class against each
other; and the dotted form of a nested class may be that of a class in a package that has the name
of the outer class.
-/

import ValueGen.Proofs.Naming.Qualified
import ValueGen.Proofs.Round.AnyOrder
import ValueGen.Proofs.Round.Embedding

namespace ValueGen

open Repository

/-! ### The name of the class for a declaration -/

namespace Naming

variable {repository : Repository} {suffix : String} {declaration : Declaration}

/-- The name of the class for a declaration whose outermost declaration is marked. -/
def className (repository : Repository) (suffix : String) (declaration : Declaration) :
    GeneratedName :=
  nameBelow suffix (repository.outermost declaration) (repository.ancestry declaration).dropLast

theorem className_of_outermost (top : repository.enclosingOf? declaration = none) :
    className repository suffix declaration =
      ⟨declaration.package, outerName suffix declaration, []⟩ := by
  rw [className, outermost_of_outermost top, ancestry_of_outermost top]
  rfl

theorem className_of_nested {enclosing : Declaration}
    (nested : repository.enclosingOf? declaration = some enclosing) :
    className repository suffix declaration =
      (className repository suffix enclosing).nested (innerName declaration) := by
  rw [className, className, nested_nameBelow, outermost_of_nested nested,
    ancestry_of_nested nested, List.dropLast_cons_of_ne_nil (repository.ancestry_ne_nil enclosing)]

theorem isTopLevel_className_iff (repository : Repository) (suffix : String)
    (declaration : Declaration) :
    (className repository suffix declaration).isTopLevel ↔
      repository.enclosingOf? declaration = none := by
  cases around : repository.enclosingOf? declaration with
  | none =>
    rw [className_of_outermost around]
    exact ⟨fun _ => rfl, fun _ => rfl⟩
  | some enclosing =>
    rw [className_of_nested around, GeneratedName.isTopLevel_nested]
    exact ⟨fun impossible => (by cases impossible), fun impossible => (by cases impossible)⟩

theorem className_outermost (repository : Repository) (suffix : String)
    (declaration : Declaration) :
    className repository suffix (repository.outermost declaration) =
      { className repository suffix declaration with inner := [] } := by
  induction declaration using nestingInduction repository with
  | outermost declaration top => rw [outermost_of_outermost top, className_of_outermost top]
  | nested declaration enclosing nested inductionHypothesis =>
    rw [outermost_of_nested nested, inductionHypothesis, className_of_nested nested]
    rfl

end Naming

theorem GeneratedFor.name_eq {repository : Repository} {suffix : String}
    {declaration : Declaration} {generated : GeneratedClass}
    (made : GeneratedFor repository suffix declaration generated) :
    generated.name = Naming.className repository suffix declaration := by
  have strict := made.resolve_strict
  have marked := (Naming.resolve_lenient_of_strict suffix strict).1
  rw [Naming.resolve_of_outermost_marked suffix .strict marked] at strict
  exact (Option.some.inj (Except.ok.inj strict)).symm

/-! ### The declarations that classes are made from -/

namespace RoundPlan

variable {repository : Repository} {suffix : String} {inputs : List repository.Member}

/-- The declarations that the classes of a plan are made from, one for each class. -/
def sources (repository : Repository) (plan : RoundPlan) : List Declaration :=
  plan.classes.flatMap fun (task, _) => (repository.nest task).declarations

/-- The classes of a plan stand one to one for the declarations that they are made from. -/
theorem generatedFor_allClasses (repository : Repository) (suffix : String)
    (inputs : List repository.Member) :
    List.Forall₂ (GeneratedFor repository suffix)
      (sources repository (make repository suffix inputs))
      (make repository suffix inputs).allClasses := by
  have each : ∀ pair ∈ (make repository suffix inputs).classes,
      List.Forall₂ (GeneratedFor repository suffix) (repository.nest pair.1).declarations
        pair.2.preorder := fun (task, generated) member =>
    (Resolver.generatedFor_of_synthesize (of_mem_classes_make member).2.1).1
  unfold sources allClasses
  generalize (make repository suffix inputs).classes = classes at each ⊢
  induction classes with
  | nil => exact .nil
  | cons first rest inductionHypothesis =>
    obtain ⟨here, later⟩ := List.forall_mem_cons.mp each
    exact List.rel_append here (inductionHypothesis later)

theorem mem_sources_iff (plan : RoundPlan) (declaration : Declaration) :
    declaration ∈ sources repository plan ↔
      ∃ task generated, (task, generated) ∈ plan.classes ∧
        declaration ∈ (repository.nest task).declarations := by
  rw [sources, List.mem_flatMap]
  exact ⟨fun ⟨⟨task, generated⟩, member, inside⟩ => ⟨task, generated, member, inside⟩,
    fun ⟨task, generated, member, inside⟩ => ⟨(task, generated), member, inside⟩⟩

/-- A task whose class is to be emitted is an outermost declaration of the repository. -/
theorem task_of_mem_classes {task : Declaration} {generated : GeneratedClass}
    (member : (task, generated) ∈ (make repository suffix inputs).classes) :
    task ∈ repository.declarations ∧ repository.outermost task = task ∧
      generated.name = Naming.className repository suffix task := by
  obtain ⟨isTask, made, topLevel⟩ := of_mem_classes_make member
  have here := (Resolver.generatedFor_of_synthesize made).2
  exact ⟨mem_of_mem_dispatch ((mem_tasks_iff _ _ _).mp isTask).1, here.isTopLevel_iff.mp topLevel,
    here.name_eq⟩

/-- Such a class is named by the marker of the task or by its toggled name, in its package. -/
theorem name_of_mem_classes {task : Declaration} {generated : GeneratedClass}
    (member : (task, generated) ∈ (make repository suffix inputs).classes) :
    generated.name = ⟨task.package, Naming.outerName suffix task, []⟩ := by
  obtain ⟨_, top, named⟩ := task_of_mem_classes member
  rw [named, Naming.className_of_outermost ((repository.enclosingOf?_eq_none_iff task).mpr top)]

/-- What is in the tree of such a task has it for its outermost declaration. -/
theorem outermost_of_mem_nest_task {task declaration : Declaration} {generated : GeneratedClass}
    (member : (task, generated) ∈ (make repository suffix inputs).classes)
    (inside : declaration ∈ (repository.nest task).declarations) :
    repository.outermost declaration = task :=
  have ⟨known, top, _⟩ := task_of_mem_classes member
  outermost_of_mem_nest known top inside

/-- Tasks whose classes are to be emitted under one dotted name are the same. -/
theorem eq_of_qualified_eq {first second : Declaration × GeneratedClass}
    (firstMember : first ∈ (make repository suffix inputs).classes)
    (secondMember : second ∈ (make repository suffix inputs).classes)
    (same : first.2.name.qualified = second.2.name.qualified) : first = second :=
  List.inj_on_of_nodup_map (nodup_names_classes repository suffix inputs) firstMember secondMember
    same

/-- No class is made from a declaration that another one is made from. -/
theorem nodup_sources (repository : Repository) (suffix : String)
    (inputs : List repository.Member) :
    (sources repository (make repository suffix inputs)).Nodup := by
  rw [sources, List.nodup_flatMap]
  refine ⟨fun (task, generated) member => nodup_nest (task_of_mem_classes member).1, ?_⟩
  have distinct := List.pairwise_map.mp (nodup_names_classes repository suffix inputs)
  refine distinct.imp_of_mem ?_
  intro (first, firstClass) (second, secondClass) firstMember secondMember differ inside inFirst
    inSecond
  refine differ ?_
  have same : first = second :=
    (outermost_of_mem_nest_task firstMember inFirst).symm.trans
      (outermost_of_mem_nest_task secondMember inSecond)
  have named : firstClass.name = secondClass.name := by
    rw [(task_of_mem_classes firstMember).2.2, (task_of_mem_classes secondMember).2.2, same]
  exact congrArg GeneratedName.qualified named

/-! ### Names of classes nested in one class -/

/-- Whether the interfaces nested directly in one declaration that a class is made from have
distinct names for their classes. -/
def SiblingsDiffer (repository : Repository) (plan : RoundPlan) : Prop :=
  ∀ declaration ∈ sources repository plan,
    ((repository.interfacesIn declaration).map Naming.innerName).Nodup

instance (plan : RoundPlan) : Decidable (SiblingsDiffer repository plan) :=
  inferInstanceAs (Decidable (∀ declaration ∈ sources repository plan,
    ((repository.interfacesIn declaration).map Naming.innerName).Nodup))

/-- Where only outermost declarations are given names by their markers, the interfaces nested in one
declaration have distinct names. -/
theorem siblingsDiffer_of_unnamed
    (unnamed : ∀ declaration ∈ repository.declarations,
      declaration.enclosing.isSome → Naming.givenName? declaration = none) (plan : RoundPlan) :
    SiblingsDiffer repository plan := by
  intro declaration _
  refine (repository.nodup_interfacesIn declaration).map_on ?_
  intro first firstFound second secondFound same
  obtain ⟨firstMember, firstNested, _⟩ := (mem_interfacesIn_iff _ _ _).mp firstFound
  obtain ⟨secondMember, secondNested, _⟩ := (mem_interfacesIn_iff _ _ _).mp secondFound
  rw [Naming.innerName, Naming.innerName, unnamed first firstMember (by rw [firstNested]; rfl),
    unnamed second secondMember (by rw [secondNested]; rfl)] at same
  refine eq_of_qualifiedName firstMember secondMember ?_
  rw [Declaration.qualifiedName, Declaration.qualifiedName, firstNested, secondNested]
  exact congrArg (_ ++ "." ++ ·) same

/-- Where siblings differ, declarations in the tree of an outermost one have distinct names for
their classes. -/
theorem eq_of_className_eq {root : Declaration} (member : root ∈ repository.declarations)
    (top : repository.outermost root = root)
    (differ : ∀ declaration ∈ (repository.nest root).declarations,
      ((repository.interfacesIn declaration).map Naming.innerName).Nodup)
    {first second : Declaration} (firstInside : first ∈ (repository.nest root).declarations)
    (secondInside : second ∈ (repository.nest root).declarations)
    (same : Naming.className repository suffix first =
      Naming.className repository suffix second) : first = second := by
  have levels : ∀ {one other : Declaration},
      Naming.className repository suffix one = Naming.className repository suffix other →
        (repository.enclosingOf? one = none ↔ repository.enclosingOf? other = none) := by
    intro one other same
    rw [← Naming.isTopLevel_className_iff repository suffix, same,
      Naming.isTopLevel_className_iff]
  have roots : ∀ declaration ∈ (repository.nest root).declarations,
      repository.enclosingOf? declaration = none → declaration = root := fun other inside outer =>
    (outermost_of_outermost outer).symm.trans (outermost_of_mem_nest member top inside)
  induction first using nestingInduction repository generalizing second with
  | outermost first outer =>
    rw [roots first firstInside outer, roots second secondInside ((levels same).mp outer)]
  | nested first firstEnclosing firstNested inductionHypothesis =>
    cases secondNested : repository.enclosingOf? second with
    | none => cases firstNested.symm.trans ((levels same).mpr secondNested)
    | some secondEnclosing =>
      rw [Naming.className_of_nested firstNested, Naming.className_of_nested secondNested,
        GeneratedName.nested_inj] at same
      have below : ∀ other around, repository.enclosingOf? other = some around → other ≠ root := by
        rintro other around nested rfl
        cases nested.symm.trans ((repository.enclosingOf?_eq_none_iff other).mpr top)
      obtain ⟨firstAround, firstFound⟩ := enclosing_mem_nest member firstInside
        (below first _ firstNested) firstNested
      obtain ⟨secondAround, secondFound⟩ := enclosing_mem_nest member secondInside
        (below second _ secondNested) secondNested
      obtain rfl := inductionHypothesis firstAround secondAround same.1
      exact List.inj_on_of_nodup_map (differ _ firstAround) firstFound secondFound same.2

/-- The classes of a plan have distinct names exactly if the interfaces nested in one declaration
have. -/
theorem nodup_className_iff (repository : Repository) (suffix : String)
    (inputs : List repository.Member) :
    ((sources repository (make repository suffix inputs)).map
        (Naming.className repository suffix)).Nodup ↔
      SiblingsDiffer repository (make repository suffix inputs) := by
  constructor
  · intro distinct declaration isSource
    obtain ⟨task, generated, member, inside⟩ := (mem_sources_iff _ _).mp isSource
    have known := mem_declarations_of_mem_nest (task_of_mem_classes member).1 inside
    refine (repository.nodup_interfacesIn declaration).map_on ?_
    intro first firstFound second secondFound same
    have isSource : ∀ inner ∈ repository.interfacesIn declaration,
        inner ∈ sources repository (make repository suffix inputs) := fun inner found =>
      (mem_sources_iff _ _).mpr ⟨task, generated, member, mem_nest_of_mem_interfacesIn inside found⟩
    refine List.inj_on_of_nodup_map distinct (isSource first firstFound)
      (isSource second secondFound) ?_
    rw [Naming.className_of_nested (enclosingOf?_of_mem_interfacesIn known firstFound),
      Naming.className_of_nested (enclosingOf?_of_mem_interfacesIn known secondFound), same]
  · intro differ
    refine (nodup_sources repository suffix inputs).map_on ?_
    intro first firstIsSource second secondIsSource same
    obtain ⟨task, generated, member, inside⟩ := (mem_sources_iff _ _).mp firstIsSource
    obtain ⟨otherTask, other, otherMember, otherInside⟩ := (mem_sources_iff _ _).mp secondIsSource
    -- the names of the outermost classes are the same already, so it is one tree
    have roots : (task, generated) = (otherTask, other) := by
      refine eq_of_qualified_eq member otherMember (congrArg GeneratedName.qualified ?_)
      have outer := congrArg (fun name : GeneratedName => { name with inner := [] }) same
      simp only [← Naming.className_outermost, outermost_of_mem_nest_task member inside,
        outermost_of_mem_nest_task otherMember otherInside] at outer
      exact (task_of_mem_classes member).2.2.trans
        (outer.trans (task_of_mem_classes otherMember).2.2.symm)
    cases roots
    obtain ⟨known, top, _⟩ := task_of_mem_classes member
    refine eq_of_className_eq known top (fun declaration nested => differ declaration ?_) inside
      otherInside same
    exact (mem_sources_iff _ _).mpr ⟨task, generated, member, nested⟩

/-! ### Names of classes at any depth -/

theorem map_source_allClasses (repository : Repository) (suffix : String)
    (inputs : List repository.Member) :
    (make repository suffix inputs).allClasses.map (·.source) =
      (sources repository (make repository suffix inputs)).map (·.qualifiedName) := by
  rw [← List.forall₂_eq_eq_eq, List.forall₂_map_left_iff, List.forall₂_map_right_iff]
  exact (generatedFor_allClasses repository suffix inputs).flip.imp fun _ _ made =>
    GeneratedFor.source_eq made

theorem map_name_allClasses (repository : Repository) (suffix : String)
    (inputs : List repository.Member) :
    (make repository suffix inputs).allClasses.map (·.name) =
      (sources repository (make repository suffix inputs)).map
        (Naming.className repository suffix) := by
  rw [← List.forall₂_eq_eq_eq, List.forall₂_map_left_iff, List.forall₂_map_right_iff]
  exact (generatedFor_allClasses repository suffix inputs).flip.imp fun _ _ made =>
    GeneratedFor.name_eq made

/-- What a declaration that a class is made from is nested in has a class as well, under the name
around that of the class. -/
theorem exists_aroundAt_className {declaration : Declaration}
    (isSource : declaration ∈ sources repository (make repository suffix inputs)) (depth : Nat) :
    ∃ around ∈ sources repository (make repository suffix inputs),
      Naming.className repository suffix around =
        (Naming.className repository suffix declaration).aroundAt depth := by
  induction declaration using nestingInduction repository with
  | outermost declaration top =>
    refine ⟨declaration, isSource, ?_⟩
    rw [Naming.className_of_outermost top, GeneratedName.aroundAt, List.take_nil]
  | nested declaration enclosing nested inductionHypothesis =>
    rw [Naming.className_of_nested nested]
    by_cases inside : depth ≤ (Naming.className repository suffix enclosing).inner.length
    · obtain ⟨task, generated, member, found⟩ := (mem_sources_iff _ _).mp isSource
      obtain ⟨known, top, _⟩ := task_of_mem_classes member
      have below : declaration ≠ task := by
        rintro rfl
        cases nested.symm.trans ((repository.enclosingOf?_eq_none_iff _).mpr top)
      have isSource := (mem_sources_iff _ _).mpr
        ⟨task, generated, member, (enclosing_mem_nest known found below nested).1⟩
      obtain ⟨around, member, named⟩ := inductionHypothesis isSource
      refine ⟨around, member, named.trans ?_⟩
      rw [GeneratedName.aroundAt, GeneratedName.aroundAt, GeneratedName.nested,
        List.take_append_of_le_length inside]
    · refine ⟨declaration, isSource, ?_⟩
      rw [Naming.className_of_nested nested, GeneratedName.aroundAt, List.take_of_length_le]
      rw [GeneratedName.nested, List.length_append, List.length_singleton]
      omega

/-- The classes around a class are written with it. -/
theorem exists_aroundAt {generated : GeneratedClass}
    (written : generated ∈ (make repository suffix inputs).allClasses) (depth : Nat) :
    ∃ around ∈ (make repository suffix inputs).allClasses,
      around.name = generated.name.aroundAt depth := by
  have sideBySide := generatedFor_allClasses repository suffix inputs
  obtain ⟨declaration, isSource, made⟩ := exists_mem_of_mem_right sideBySide written
  obtain ⟨above, aboveIsSource, named⟩ := exists_aroundAt_className isSource depth
  obtain ⟨around, aroundWritten, aroundMade⟩ := exists_mem_of_mem_left sideBySide aboveIsSource
  exact ⟨around, aroundWritten, by rw [aroundMade.name_eq, named, made.name_eq]⟩

/-- Where simple names hold no points and no package has the name of a class, the dotted names are
as distinct as the names. -/
theorem nodup_qualified_iff
    (pointFree : ∀ generated ∈ (make repository suffix inputs).allClasses,
      generated.name.PointFree)
    (apart : ∀ first ∈ (make repository suffix inputs).allClasses,
      ∀ second ∈ (make repository suffix inputs).allClasses,
        first.name.package ≠ second.name.qualified) :
    ((make repository suffix inputs).allClasses.map (·.name.qualified)).Nodup ↔
      ((make repository suffix inputs).allClasses.map (·.name)).Nodup := by
  have dotted : (make repository suffix inputs).allClasses.map (·.name.qualified) =
      ((make repository suffix inputs).allClasses.map (·.name)).map (·.qualified) := by
    rw [List.map_map]
    rfl
  rw [dotted]
  refine ⟨List.Nodup.of_map _, fun distinct => distinct.map_on ?_⟩
  intro firstName firstIsName secondName secondIsName same
  obtain ⟨first, firstWritten, rfl⟩ := List.mem_map.mp firstIsName
  obtain ⟨second, secondWritten, rfl⟩ := List.mem_map.mp secondIsName
  rcases GeneratedName.eq_or_package_of_qualified_eq (pointFree first firstWritten)
      (pointFree second secondWritten) same with equal | ⟨depth, package⟩ | ⟨depth, package⟩
  · exact equal
  · obtain ⟨around, aroundWritten, named⟩ := exists_aroundAt firstWritten depth
    exact absurd (named ▸ package) (apart second secondWritten around aroundWritten)
  · obtain ⟨around, aroundWritten, named⟩ := exists_aroundAt secondWritten depth
    exact absurd (named ▸ package) (apart first firstWritten around aroundWritten)

end RoundPlan

/-! ### The whole round -/

namespace Round

open RoundPlan

/-- A unit that is offered is in the package of its task, under the name that the marker of the task
gives or under its toggled name. -/
theorem name_of_mem_offers {repository : Repository} {config : Config} {now : String}
    {inputs : List repository.Member} {offer : Declaration × CompilationUnit}
    (member : offer ∈ (decisions repository config now inputs).offers) :
    offer.2.name = ⟨offer.1.package, Naming.outerName config.suffix offer.1, []⟩ := by
  obtain ⟨generated, isClass, rendered⟩ := exists_class_of_mem_offers member
  rw [← rendered]
  exact name_of_mem_classes isClass

/-- Which of the classes of a round at any depth share what. -/
structure Distinctness (repository : Repository) (suffix : String) (plan : RoundPlan) : Prop where
  /-- No two classes are made from one declaration. -/
  sources : (plan.allClasses.map (·.source)).Nodup
  /-- The outermost classes have distinct dotted names. -/
  outermost : (plan.classes.map fun (_, generated) => generated.name.qualified).Nodup
  /-- Two classes have one name exactly if two interfaces nested directly in one declaration have
  one name for their classes. -/
  names : (plan.allClasses.map (·.name)).Nodup ↔ SiblingsDiffer repository plan
  /-- That takes a name that the marker of a nested interface gives. -/
  siblings : (∀ declaration ∈ repository.declarations, declaration.enclosing.isSome →
    Naming.givenName? declaration = none) → SiblingsDiffer repository plan
  /-- The same holds of dotted names, where simple names hold no points and no package has the name
  of a class. -/
  qualified : (∀ generated ∈ plan.allClasses, generated.name.PointFree) →
    (∀ first ∈ plan.allClasses, ∀ second ∈ plan.allClasses,
      first.name.package ≠ second.name.qualified) →
    ((plan.allClasses.map (·.name.qualified)).Nodup ↔ SiblingsDiffer repository plan)

/-- Among the classes that the emitter is offered in a round and the classes in them, a name is
repeated exactly where two interfaces nested directly in one declaration have one name for their
classes. -/
theorem distinctness_runWith (repository : Repository) (config : Config) (now : String)
    (inputs : List repository.Member) {State : Type} (emit : Emitter (StateM State))
    (state : State) :
    ((runWith repository config now inputs emit.logging).run (state, [])).2.2.map Prod.fst =
        (make repository config.suffix inputs).classes.map
          (fun (_, generated) => generated.render (options config now)) ∧
      Distinctness repository config.suffix (make repository config.suffix inputs) := by
  have names := map_name_allClasses repository config.suffix inputs
  have siblings := nodup_className_iff repository config.suffix inputs
  rw [← names] at siblings
  refine ⟨map_fst_logging repository config now inputs emit state, ?_,
    nodup_names_classes repository config.suffix inputs, siblings,
    fun unnamed => siblingsDiffer_of_unnamed unnamed _,
    fun pointFree apart => (nodup_qualified_iff pointFree apart).trans siblings⟩
  rw [map_source_allClasses]
  refine (nodup_sources repository config.suffix inputs).map_on ?_
  intro first firstIsSource second secondIsSource same
  obtain ⟨_, _, member, inside⟩ := (mem_sources_iff _ _).mp firstIsSource
  obtain ⟨_, _, otherMember, otherInside⟩ := (mem_sources_iff _ _).mp secondIsSource
  exact eq_of_qualifiedName (mem_declarations_of_mem_nest (task_of_mem_classes member).1 inside)
    (mem_declarations_of_mem_nest (task_of_mem_classes otherMember).1 otherInside) same

/-- In this round no interface is nested in another one under a name that is there already. -/
theorem distinctness_runWith_clashing :
    (∀ generated ∈ (make clashingRepository "POJO" clashingRepository.markedMembers).allClasses,
        generated.name.PointFree) ∧
      (∀ first ∈ (make clashingRepository "POJO" clashingRepository.markedMembers).allClasses,
        ∀ second ∈ (make clashingRepository "POJO" clashingRepository.markedMembers).allClasses,
          first.name.package ≠ second.name.qualified) ∧
      ((make clashingRepository "POJO" clashingRepository.markedMembers).allClasses.map
        (·.name.qualified)).Nodup := by
  have pointFree : ∀ generated ∈
      (make clashingRepository "POJO" clashingRepository.markedMembers).allClasses,
        generated.name.PointFree := by
    decide +kernel
  have apart : ∀ first ∈
      (make clashingRepository "POJO" clashingRepository.markedMembers).allClasses,
        ∀ second ∈ (make clashingRepository "POJO" clashingRepository.markedMembers).allClasses,
          first.name.package ≠ second.name.qualified := by
    decide +kernel
  have distinct := (distinctness_runWith clashingRepository .default ""
    clashingRepository.markedMembers Emitter.inMemory []).2
  exact ⟨pointFree, apart, (distinct.qualified pointFree apart).mpr (by decide +kernel)⟩

/-- A marked interface and two interfaces nested in it whose markers give one name. -/
def twinsRepository : Repository :=
  let outer := (Declaration.interface "pkg" "OuterPOJO").withMarker .plain
  let first := ((Declaration.interface "pkg" "First").nestIn outer).withMarker ⟨some "Same"⟩
  let second := ((Declaration.interface "pkg" "Second").nestIn outer).withMarker ⟨some "Same"⟩
  ⟨[outer, first, second], by decide⟩

/-- A round may report no error and have two classes of one name, nested in one class. -/
theorem name_repeated_twins :
    ((runWith twinsRepository .default "" (twinsRepository.declarations.attach.take 1)
        Emitter.inMemory).run []).1 = ⟨[⟨"pkg", "Outer", []⟩], [], []⟩ ∧
      (make twinsRepository "POJO" (twinsRepository.declarations.attach.take 1)).allClasses.map
        (·.name.qualified) = ["pkg.Outer", "pkg.Outer.Same", "pkg.Outer.Same"] ∧
      ¬ ((make twinsRepository "POJO" (twinsRepository.declarations.attach.take 1)).allClasses.map
        (·.name.qualified)).Nodup := by
  refine ⟨?_, ?_, ?_⟩
  · decide +kernel
  · decide +kernel
  · decide +kernel

/-- Two classes of different names have one dotted name where one is nested in a class and the other
one is in a package with the name of that class. -/
example :
    let user := (Declaration.interface "pkg" "UserPOJO").withMarker .plain
    let address := (Declaration.interface "pkg" "Address").nestIn user
    let other := (Declaration.interface "pkg.User" "AddressPOJO").withMarker .plain
    let repository : Repository := ⟨[user, address, other], by decide⟩
    SiblingsDiffer repository (make repository "POJO" repository.markedMembers) ∧
      (make repository "POJO" repository.markedMembers).allClasses.map (·.name.qualified) =
        ["pkg.User", "pkg.User.Address", "pkg.User.Address"] := by
  decide +kernel

end Round

end ValueGen
