/-
This file says which classes a round without errors writes. Strict names go up through whatever a
declaration is nested in, classes are put together downwards through interfaces only, and a nested
class counts as part of another one without a look at that other one. So what is written is the
classes of the declarations that have a name and nothing but interfaces around them. A declaration
with another shape around it may be a task that no error tells of and whose class is nowhere, and
a type may mention a class that is nowhere.
-/

import ValueGen.Proofs.Round.Outcome

namespace ValueGen

namespace RoundPlan

/-- The classes of a plan at any depth. -/
def allClasses (plan : RoundPlan) : List GeneratedClass :=
  plan.classes.flatMap fun (_, generated) => generated.preorder

theorem mem_allClasses_iff_exists (plan : RoundPlan) (generated : GeneratedClass) :
    generated ∈ plan.allClasses ↔
      ∃ task outer, (task, outer) ∈ plan.classes ∧ generated ∈ outer.preorder := by
  rw [allClasses, List.mem_flatMap]
  exact ⟨fun ⟨⟨task, outer⟩, member, inside⟩ => ⟨task, outer, member, inside⟩,
    fun ⟨task, outer, member, inside⟩ => ⟨(task, outer), member, inside⟩⟩

end RoundPlan

/-! ### What is written -/

section Written

open Repository

variable {repository : Repository} {suffix : String}

/-- Every class that is written is one of a declaration with interfaces around it. -/
theorem exists_of_mem_allClasses {inputs : List repository.Member} {generated : GeneratedClass}
    (written : generated ∈ (RoundPlan.make repository suffix inputs).allClasses) :
    ∃ declaration ∈ repository.declarations, GeneratedFor repository suffix declaration generated ∧
      repository.SurroundedByInterfaces declaration := by
  obtain ⟨task, outer, member, inside⟩ := (RoundPlan.mem_allClasses_iff_exists _ _).mp written
  obtain ⟨isTask, made, topLevel⟩ := RoundPlan.of_mem_classes_make member
  obtain ⟨dispatched, isInterface⟩ := (mem_tasks_iff _ _ _).mp isTask
  have known := mem_of_mem_dispatch dispatched
  obtain ⟨sideBySide, here⟩ := Resolver.generatedFor_of_synthesize made
  obtain ⟨declaration, nested, there⟩ := exists_mem_of_mem_right sideBySide inside
  have declared := mem_declarations_of_mem_nest known nested
  obtain ⟨below, split, interfaces⟩ := (mem_nest_iff known declared).mp nested
  refine ⟨declaration, declared, there, fun around above => ?_⟩
  rw [split, ← here.isTopLevel_iff.mp topLevel, ancestry_outermost] at above
  rcases List.mem_append.mp above with lower | last
  · exact interfaces around lower
  · rw [List.mem_singleton.mp last, here.isTopLevel_iff.mp topLevel]
    exact isInterface

/-- Where no task fails, a declaration with a name and with interfaces around it has an outermost
declaration that is marked: what is marked around it is a task, and its strict name needs that. -/
theorem outermost_marked
    (succeeds : (RoundPlan.make repository suffix repository.markedMembers).Succeeds)
    {declaration : Declaration} (member : declaration ∈ repository.declarations)
    (surrounded : repository.SurroundedByInterfaces declaration) {name : GeneratedName}
    (named : Naming.resolve repository suffix .lenient declaration = .ok (some name)) :
    (repository.markerOf? (repository.outermost declaration)).isSome := by
  rcases Naming.resolve_lenient_cases repository suffix declaration with
    ⟨_, unnamed⟩ | ⟨⟨around, above, marked⟩, _⟩
  · cases named.symm.trans unnamed
  · have isTask := (mem_tasks_marked_iff repository around).mpr
      ⟨mem_declarations_of_mem_ancestry member above, marked, surrounded around above⟩
    obtain ⟨generated, made⟩ := RoundPlan.exists_synthesize_of_mem_tasks succeeds isTask
    have strict := (Resolver.generatedFor_of_synthesize made).2.resolve_strict
    rw [← outermost_of_mem_ancestry above]
    exact (Naming.resolve_lenient_of_strict suffix strict).1

/-- Where no task fails, a declaration with a name and with interfaces around it has a class that
is written: it is put together with that of the outermost declaration, which is a task. -/
theorem exists_mem_allClasses
    (succeeds : (RoundPlan.make repository suffix repository.markedMembers).Succeeds)
    {declaration : Declaration} (member : declaration ∈ repository.declarations)
    (surrounded : repository.SurroundedByInterfaces declaration) {name : GeneratedName}
    (named : Naming.resolve repository suffix .lenient declaration = .ok (some name)) :
    ∃ generated ∈ (RoundPlan.make repository suffix repository.markedMembers).allClasses,
      GeneratedFor repository suffix declaration generated := by
  have above := outermost_mem_ancestry repository declaration
  have known := mem_declarations_of_mem_ancestry member above
  have isTask := (mem_tasks_marked_iff repository (repository.outermost declaration)).mpr
    ⟨known, outermost_marked succeeds member surrounded named, surrounded _ above⟩
  obtain ⟨outer, made⟩ := RoundPlan.exists_synthesize_of_mem_tasks succeeds isTask
  obtain ⟨sideBySide, here⟩ := Resolver.generatedFor_of_synthesize made
  have topLevel := here.isTopLevel_iff.mpr (outermost_of_mem_ancestry above)
  have nested :
      declaration ∈ (repository.nest (repository.outermost declaration)).declarations := by
    refine (mem_nest_iff known member).mpr ⟨(repository.ancestry declaration).dropLast, ?_, ?_⟩
    · rw [ancestry_outermost]
      exact repository.ancestry_eq_dropLast_append declaration
    · exact fun around lower => surrounded around (List.dropLast_subset _ lower)
  obtain ⟨generated, inside, there⟩ := exists_mem_of_mem_left sideBySide nested
  have written := RoundPlan.mem_classes_make succeeds isTask made topLevel
  exact ⟨generated, (RoundPlan.mem_allClasses_iff_exists _ _).mpr ⟨_, outer, written, inside⟩,
    there⟩

/-- Where no task fails, the written classes are those of the declarations with a name and with
interfaces around them: by the declarations they are made from. -/
theorem exists_source_iff
    (succeeds : (RoundPlan.make repository suffix repository.markedMembers).Succeeds)
    {declaration : Declaration} (member : declaration ∈ repository.declarations) :
    (∃ generated ∈ (RoundPlan.make repository suffix repository.markedMembers).allClasses,
        generated.source = declaration.qualifiedName) ↔
      repository.SurroundedByInterfaces declaration ∧
        ∃ name, Naming.resolve repository suffix .lenient declaration = .ok (some name) := by
  constructor
  · rintro ⟨generated, written, source⟩
    obtain ⟨other, otherMember, made, surrounded⟩ := exists_of_mem_allClasses written
    obtain rfl := eq_of_qualifiedName otherMember member (made.source_eq.symm.trans source)
    exact ⟨surrounded, generated.name, made.resolve_lenient⟩
  · rintro ⟨surrounded, name, named⟩
    obtain ⟨generated, written, made⟩ := exists_mem_allClasses succeeds member surrounded named
    exact ⟨generated, written, made.source_eq⟩

/-- The same by their names. -/
theorem exists_name_iff
    (succeeds : (RoundPlan.make repository suffix repository.markedMembers).Succeeds)
    (property : GeneratedName → Prop) :
    (∃ generated ∈ (RoundPlan.make repository suffix repository.markedMembers).allClasses,
        property generated.name) ↔
      ∃ declaration ∈ repository.declarations, repository.SurroundedByInterfaces declaration ∧
        ∃ name, Naming.resolve repository suffix .lenient declaration = .ok (some name) ∧
          property name := by
  constructor
  · rintro ⟨generated, written, holds⟩
    obtain ⟨declaration, member, made, surrounded⟩ := exists_of_mem_allClasses written
    exact ⟨declaration, member, surrounded, generated.name, made.resolve_lenient, holds⟩
  · rintro ⟨declaration, member, surrounded, name, named, holds⟩
    obtain ⟨generated, written, made⟩ := exists_mem_allClasses succeeds member surrounded named
    have same := Option.some.inj (Except.ok.inj (named.symm.trans made.resolve_lenient))
    exact ⟨generated, written, same ▸ holds⟩

end Written

/-! ### The tasks of a round without errors -/

namespace Round

open Repository

/-- What is written for the tasks of a round, of which the report tells no error. -/
structure TasksWritten (repository : Repository) (suffix : String) (report : RoundReport) :
    Prop where
  /-- The emitter took the outermost classes, one by one. -/
  emitted : report.emitted =
    (RoundPlan.make repository suffix repository.markedMembers).classes.map
      fun (_, generated) => generated.name
  /-- A task has a class at some depth exactly if nothing but interfaces is around it. -/
  written : ∀ task ∈ repository.tasks repository.markedMembers,
    (∃ generated ∈ (RoundPlan.make repository suffix repository.markedMembers).allClasses,
        generated.source = task.qualifiedName) ↔ repository.SurroundedByInterfaces task
  /-- A class that counts as part of another one has the name of a nested task. -/
  filtered : ∀ name ∈ report.filtered, ∃ task ∈ repository.tasks repository.markedMembers,
    Naming.resolve repository suffix .strict task = .ok (some name) ∧
      repository.outermost task ≠ task
  /-- A class with that name is written exactly if a declaration with that name has nothing but
  interfaces around it. -/
  filtered_written : ∀ name ∈ report.filtered,
    (∃ generated ∈ (RoundPlan.make repository suffix repository.markedMembers).allClasses,
        generated.name = name) ↔
      ∃ declaration ∈ repository.declarations, repository.SurroundedByInterfaces declaration ∧
        Naming.resolve repository suffix .lenient declaration = .ok (some name)

/-- A round without errors writes the classes of the tasks that have nothing but interfaces around
them, and of no other tasks. -/
theorem tasksWritten_run (repository : Repository) (config : Config) (now : String) {State : Type}
    (emit : Emitter (StateM State)) (state : State)
    (errorFree : ((run repository config now emit).run state).1.errors = []) :
    TasksWritten repository config.suffix ((run repository config now emit).run state).1 := by
  obtain ⟨_, succeeds, emitted⟩ := of_errors_eq_nil errorFree
  obtain ⟨answers, _, same⟩ :=
    exists_answers repository config now repository.markedMembers emit state
  refine ⟨emitted, fun task member => ?_, fun name member => ?_, fun name _ => ?_⟩
  · obtain ⟨known, _, _⟩ := (mem_tasks_marked_iff _ _).mp member
    obtain ⟨generated, made⟩ := RoundPlan.exists_synthesize_of_mem_tasks succeeds member
    have lenient := (Resolver.generatedFor_of_synthesize made).2.resolve_lenient
    rw [exists_source_iff succeeds known]
    exact ⟨fun found => found.1, fun surrounded => ⟨surrounded, generated.name, lenient⟩⟩
  · rw [run, same, RoundPlan.mem_filtered_iff] at member
    obtain ⟨task, isTask, generated, made, nested, rfl⟩ := RoundPlan.of_embedded_mem_results member
    have here := (Resolver.generatedFor_of_synthesize made).2
    exact ⟨task, isTask, here.resolve_strict, fun outer => nested (here.isTopLevel_iff.mpr outer)⟩
  · rw [exists_name_iff succeeds (· = name)]
    constructor
    · rintro ⟨declaration, member, surrounded, _, named, rfl⟩
      exact ⟨declaration, member, surrounded, named⟩
    · rintro ⟨declaration, member, surrounded, named⟩
      exact ⟨declaration, member, surrounded, name, named, rfl⟩

/-- A marked interface, in it a declaration that is no interface, and in that a marked interface. -/
def interruptedRepository : Repository :=
  let outer := (Declaration.interface "pkg" "OuterPOJO").withMarker .plain
  let middle := (Declaration.new "pkg" "Middle" .other).nestIn outer
  let inner := ((Declaration.interface "pkg" "Inner").nestIn middle).withMarker .plain
  ⟨[outer, middle, inner], by decide⟩

theorem tasksWritten_run_interrupted :
    ((run interruptedRepository .default "" Emitter.inMemory).run []).1.errors = [] ∧
      TasksWritten interruptedRepository "POJO"
        ((run interruptedRepository .default "" Emitter.inMemory).run []).1 :=
  ⟨by decide +kernel,
    tasksWritten_run interruptedRepository .default "" Emitter.inMemory [] (by decide +kernel)⟩

/-- A round may report no error, and a class as part of another one, and not write it. -/
theorem task_lost_interrupted :
    ((run interruptedRepository .default "" Emitter.inMemory).run []).1 =
        ⟨[⟨"pkg", "Outer", []⟩], [⟨"pkg", "Outer", ["Middle", "Inner"]⟩], []⟩ ∧
      (∃ task ∈ interruptedRepository.tasks interruptedRepository.markedMembers,
        ∀ generated ∈ (RoundPlan.make interruptedRepository "POJO"
            interruptedRepository.markedMembers).allClasses,
          generated.source ≠ task.qualifiedName) ∧
      ∃ name ∈ ((run interruptedRepository .default "" Emitter.inMemory).run []).1.filtered,
        ∀ generated ∈ (RoundPlan.make interruptedRepository "POJO"
            interruptedRepository.markedMembers).allClasses,
          generated.name ≠ name := by
  refine ⟨?_, ?_, ?_⟩
  · decide +kernel
  · decide +kernel
  · decide +kernel

end Round

end ValueGen
