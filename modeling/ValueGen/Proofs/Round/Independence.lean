/-
This file says that a round does not depend on its emitter: what is offered, what counts as part of
another class and what fails before emission is the same for all emitters and all orders of the
offers. So the units that a dry run keeps in memory, and whose paths it lists, are those that are
written otherwise, and a unit in memory is found by its name whatever the order.
-/

import ValueGen.CommandLine.Run
import ValueGen.Proofs.Round.AnyOrder

namespace ValueGen

open RoundPlan CommandLine

/-! ### What is decided -/

namespace RoundPlan

variable {repository : Repository} {suffix : String}

/-- The classes that are to be emitted follow the order of their tasks. -/
theorem sublist_tasks {tasks : List Declaration} {results : List TaskResult}
    (settled : List.Forall₂ (fun task result => Settled task
      ((Resolver.direct repository suffix).synthesize task).run result) tasks results)
    (rejected : List Declaration) :
    ((classes ⟨rejected, results⟩).map Prod.fst).Sublist tasks := by
  induction settled with
  | nil => exact .slnil
  | @cons task result tasks results here _ inductionHypothesis =>
    generalize ((Resolver.direct repository suffix).synthesize task).run = outcome at here
    cases here with
    | failed _ => exact inductionHypothesis.cons task
    | taken _ _ _ => exact inductionHypothesis.cons task
    | embedded _ _ => exact inductionHypothesis.cons task
    | toEmit _ _ => exact inductionHypothesis.cons_cons task

end RoundPlan

/-! ### Units in memory -/

namespace Round

/-- Outermost classes are kept in memory in the order in which they are offered. -/
theorem run_offer_inMemory {Place : Type} {unit : Place → CompilationUnit}
    (topLevel : ∀ place, (unit place).name.isTopLevel) (places : List Place)
    (units : List CompilationUnit) :
    ((offer Emitter.inMemory unit places).run units).2 = units ++ places.map unit := by
  induction places generalizing units with
  | nil => exact (List.append_nil units).symm
  | cons place rest inductionHypothesis =>
    have kept : ((Emitter.inMemory (unit place)).run units).2 = units ++ [unit place] := by
      rw [Emitter.inMemory, Emitter.topLevelOnly, if_pos (topLevel place)]
      rfl
    have later := inductionHypothesis ((Emitter.inMemory (unit place)).run units).2
    rw [kept, List.append_assoc, List.singleton_append, ← List.map_cons] at later
    rw [run_offer_cons, ← later, ← kept]
    rfl

section Memory

variable (repository : Repository) (config : Config) (now : String)
  (inputs : List repository.Member)

/-- The units that are in memory after a round. -/
theorem perm_inMemory (turns : Turns) :
    ((runInOrder repository config now inputs Emitter.inMemory turns).run []).2.Perm
      ((decisions repository config now inputs).offers.map Prod.snd) := by
  let plan := make repository config.suffix inputs
  let unit := fun place => (plan.classes.get place).2.render (options config now)
  have topLevel : ∀ place, (unit place).name.isTopLevel := fun place =>
    (of_mem_classes_make (plan.classes.get_mem place)).2.2
  have kept : ((runInOrder repository config now inputs Emitter.inMemory turns).run []).2 =
      (turns.places plan.classes.length).map unit :=
    run_offer_inMemory topLevel _ []
  have units : (List.finRange plan.classes.length).map unit =
      plan.classes.map fun item => item.2.render (options config now) :=
    List.map_map.symm.trans (congrArg (List.map fun item : Declaration × GeneratedClass =>
      item.2.render (options config now)) (List.map_get_finRange plan.classes))
  rw [kept, decisions, RoundPlan.decisions, List.map_map]
  exact ((turns.each _).map unit).trans (.of_eq units)

/-- No unit is in memory twice. -/
theorem nodup_inMemory (turns : Turns) :
    ((runInOrder repository config now inputs Emitter.inMemory turns).run []).2.Nodup := by
  have names := nodup_names_offers repository config now inputs
  rw [(perm_inMemory repository config now inputs turns).nodup_iff]
  exact .of_map (·.name.qualified) (by rw [List.map_map]; exact names)

/-- What is in memory is what another emitter is handed, in any order. -/
theorem perm_handed {otherNow : String} (sameTime : config.emitDate → otherNow = now)
    {State : Type} (emit : Emitter (StateM State)) (state : State) (turns memoryTurns : Turns) :
    ((runInOrder repository config now inputs Emitter.inMemory memoryTurns).run []).2.Perm
      (((runInOrder repository config otherNow inputs emit.logging turns).run
        (state, [])).2.2.map Prod.fst) := by
  obtain ⟨log, logged, told⟩ := tells_runInOrder repository config now inputs emit state turns
  rw [runInOrder_of_sameTime sameTime, logged]
  exact (perm_inMemory repository config now inputs memoryTurns).trans told.offered.symm

theorem nodup_tasks_offers :
    ((decisions repository config now inputs).offers.map Prod.fst).Nodup := by
  have order := sublist_tasks (settled_make repository config.suffix inputs)
    (make repository config.suffix inputs).rejected
  have once := (nodup_tasks repository inputs).sublist order
  rw [decisions, RoundPlan.decisions, List.map_map]
  exact once

end Memory

/-- What fails before anything is offered is rejected, cannot be put together, or has a name that is
taken. -/
theorem reason_of_mem_failures {repository : Repository} {config : Config} {now : String}
    {inputs : List repository.Member} {failure : ErrorReport}
    (member : failure ∈ (decisions repository config now inputs).failures) :
    failure.error = .notAnInterface ∨ Resolver.IsSynthesisError failure.error ∨
      ∃ name first, failure.error = .nameCollision name first := by
  rcases List.mem_append.mp member with isRejection | isFailure
  · obtain ⟨_, _, rfl⟩ := List.mem_map.mp isRejection
    exact .inl rfl
  · obtain ⟨result, isResult, same⟩ := List.mem_filterMap.mp isFailure
    cases result with
    | failed report =>
      obtain rfl := Option.some.inj same
      exact .inr (reason_of_failed_mem_results isResult)
    | toEmit _ _ => cases same
    | embedded _ => cases same

/-! ### The command -/

section Command

variable (repository : Repository) (config : Config) (now : String) {State : Type}
  (files : FileAccess (StateM State)) (directory : String) (json : Bool) (state : State)

/-- A dry run does not touch the files, and lists what is in memory. -/
theorem run_generate_dry :
    (generate files repository config now directory true json).run state =
      let (report, units) :=
        (runInOrder repository config now repository.markedMembers Emitter.inMemory .inOrder).run []
      ((conclude json report).after (unlines (listing directory units)), state) := by
  rw [run_runInOrder_inOrder]
  rfl

theorem run_generate :
    (generate files repository config now directory false json).run state =
      let (report, last) := (runInOrder repository config now repository.markedMembers
        (Emitter.toFiles files directory) .inOrder).run state
      (conclude json report, last) := by
  rw [run_runInOrder_inOrder]
  rfl

end Command

/-! ### Independence of the emitter -/

/-- How the rounds over a repository are the same for all emitters. -/
structure EmitterIndependence (repository : Repository) (config : Config) (now : String) :
    Prop where
  /-- Any emitter is offered the units that are decided without it, each once and in any order, and
  the report tells what is decided without the emitter and what the emitter says to each unit. Where
  the date is emitted, the time has to be the same. -/
  rounds : ∀ (inputs : List repository.Member) (otherNow : String),
    (config.emitDate → otherNow = now) → ∀ {State : Type} (emit : Emitter (StateM State))
      (state : State) (turns : Turns), ∃ log : EmissionLog,
        (runInOrder repository config otherNow inputs emit.logging turns).run (state, []) =
            (((runInOrder repository config otherNow inputs emit turns).run state).1,
              ((runInOrder repository config otherNow inputs emit turns).run state).2, log) ∧
          (decisions repository config now inputs).Tells log
            ((runInOrder repository config otherNow inputs emit turns).run state).1
  /-- Each unit that is offered is made from the class put together for its task. -/
  made : ∀ (inputs : List repository.Member),
    ∀ offer ∈ (decisions repository config now inputs).offers,
      offer.1 ∈ repository.tasks inputs ∧ ∃ generated,
        ((Resolver.direct repository config.suffix).synthesize offer.1).run = .ok generated ∧
          generated.render (options config now) = offer.2
  /-- No two offers are for one task. -/
  tasks : ∀ inputs, ((decisions repository config now inputs).offers.map Prod.fst).Nodup
  /-- No two units that are offered have one name. -/
  names : ∀ inputs,
    ((decisions repository config now inputs).offers.map (·.2.name.qualified)).Nodup
  /-- What fails before anything is offered is no interface, cannot be put together, or has a name
  that is taken. -/
  failures : ∀ inputs, ∀ failure ∈ (decisions repository config now inputs).failures,
    failure.error = .notAnInterface ∨ Resolver.IsSynthesisError failure.error ∨
      ∃ name first, failure.error = .nameCollision name first
  /-- A dry run keeps the units in memory, in any order, that are written otherwise. -/
  dryRun : ∀ (otherNow : String), (config.emitDate → otherNow = now) → ∀ {State : Type}
    (files : FileAccess (StateM State)) (directory : String) (state : State)
    (turns dryTurns : Turns),
      ((runInOrder repository config now repository.markedMembers Emitter.inMemory dryTurns).run
          []).2.Perm
        (((runInOrder repository config otherNow repository.markedMembers
          (Emitter.toFiles files directory).logging turns).run (state, [])).2.2.map Prod.fst)
  /-- The command for a dry run leaves everything as it is. It writes one line for each unit that
  the emitter for files is handed otherwise, with the path of the unit below the output directory,
  and no other line before what it says of the round in memory. -/
  listed : ∀ (otherNow : String), (config.emitDate → otherNow = now) → ∀ {State : Type}
    (files : FileAccess (StateM State)) (directory : String) (json : Bool) (state : State)
    (turns : Turns),
      let handed := ((runInOrder repository config otherNow repository.markedMembers
        (Emitter.toFiles files directory).logging turns).run (state, [])).2.2.map Prod.fst
      let said := conclude json
        ((runInOrder repository config now repository.markedMembers Emitter.inMemory .inOrder).run
          []).1
      handed.Nodup ∧ ∃ lines : List String,
        lines.Perm (handed.map fun unit => "would write " ++ Path.append directory unit.path) ∧
          (generate files repository config now directory true json).run state =
            ({ said with stdout := String.join (lines.map (· ++ "\n")) ++ said.stdout }, state)
  /-- Otherwise the command runs the round with the emitter for files, in its own order. -/
  written : ∀ {State : Type} (files : FileAccess (StateM State)) (directory : String)
    (json : Bool) (state : State),
      (generate files repository config now directory false json).run state =
        let (report, last) := (runInOrder repository config now repository.markedMembers
          (Emitter.toFiles files directory) .inOrder).run state
        (conclude json report, last)
  /-- A unit in memory is found by its name. -/
  memory : ∀ (inputs : List repository.Member) (turns : Turns) (name : String)
    (unit : CompilationUnit),
      Emitter.find? ((runInOrder repository config now inputs Emitter.inMemory turns).run []).2
          name = some unit ↔
        unit ∈ (decisions repository config now inputs).offers.map Prod.snd ∧
          unit.name.qualified = name

/-- A round does not depend on its emitter. -/
theorem emitterIndependence_runInOrder (repository : Repository) (config : Config)
    (now : String) : EmitterIndependence repository config now where
  rounds inputs otherNow sameTime _ emit state turns := by
    rw [runInOrder_of_sameTime sameTime, runInOrder_of_sameTime sameTime]
    exact tells_runInOrder repository config now inputs emit state turns
  made inputs offer member := by
    obtain ⟨generated, isClass, rendered⟩ := exists_class_of_mem_offers member
    obtain ⟨isTask, made, _⟩ := of_mem_classes_make isClass
    exact ⟨isTask, generated, made, rendered⟩
  tasks inputs := nodup_tasks_offers repository config now inputs
  names inputs := nodup_names_offers repository config now inputs
  failures inputs _ member := reason_of_mem_failures member
  dryRun otherNow sameTime _ files directory state turns dryTurns :=
    perm_handed repository config now repository.markedMembers sameTime
      (Emitter.toFiles files directory) state turns dryTurns
  listed otherNow sameTime _ files directory json state turns := by
    intro handed said
    have kept := perm_handed repository config now repository.markedMembers sameTime
      (Emitter.toFiles files directory) state turns .inOrder
    have once := nodup_inMemory repository config now repository.markedMembers .inOrder
    refine ⟨kept.nodup_iff.mp once, _, kept.map _, ?_⟩
    rw [run_generate_dry, ← unlines_eq_join]
    rfl
  written files directory json state :=
    run_generate repository config now files directory json state
  memory inputs turns name unit := by
    have kept := perm_inMemory repository config now inputs turns
    have distinct : (((runInOrder repository config now inputs Emitter.inMemory turns).run
        []).2.map (·.name.qualified)).Nodup := by
      rw [(kept.map _).nodup_iff, List.map_map]
      exact nodup_names_offers repository config now inputs
    rw [← kept.mem_iff]
    exact Repository.find?_key_eq_some_iff distinct name unit

end Round

end ValueGen
