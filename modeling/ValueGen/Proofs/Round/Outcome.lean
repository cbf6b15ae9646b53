/-
This file says what a round makes of its tasks. Each task has one result, which is settled by what
was put together for it: an error is reported as it is, a nested class is part of another one, and
an outermost one is to be emitted unless its name is taken. Whatever the emitter does, the report
is that of the plan with an answer for each class that is to be emitted. So a report without errors
is one of a round in which every task has a class.
-/

import ValueGen.Proofs.Round.Dispatch
import ValueGen.Proofs.Synthesis
import ValueGen.Round.Plan

namespace ValueGen

namespace RoundPlan

variable {repository : Repository} {suffix : String} {inputs : List repository.Member}

/-! ### The results of the tasks -/

/-- The result of a task is settled by what was put together for it. -/
inductive Settled (task : Declaration) : Except GenerationError GeneratedClass → TaskResult → Prop
  | failed (error : GenerationError) :
    Settled task (.error error) (.failed ⟨task.qualifiedName, error⟩)
  | taken (generated : GeneratedClass) (first : String) (topLevel : generated.isTopLevel) :
    Settled task (.ok generated)
      (.failed ⟨task.qualifiedName, .nameCollision generated.name.qualified first⟩)
  | toEmit (generated : GeneratedClass) (topLevel : generated.isTopLevel) :
    Settled task (.ok generated) (.toEmit task generated)
  | embedded (generated : GeneratedClass) (nested : ¬ generated.isTopLevel) :
    Settled task (.ok generated) (.embedded generated.name)

theorem settled_claim (claimed : List (String × String))
    (outcomes : List (Declaration × Except GenerationError GeneratedClass)) :
    List.Forall₂ (fun outcome result => Settled outcome.1 outcome.2 result) outcomes
      (claim claimed outcomes) := by
  induction outcomes generalizing claimed with
  | nil => exact .nil
  | cons outcome rest inductionHypothesis =>
    obtain ⟨task, error | generated⟩ := outcome
    · exact .cons (.failed error) (inductionHypothesis claimed)
    · rw [claim]
      by_cases topLevel : generated.isTopLevel
      · rw [if_pos topLevel]
        dsimp only
        cases claimed.lookup generated.name.qualified with
        | some first => exact .cons (.taken generated first topLevel) (inductionHypothesis _)
        | none => exact .cons (.toEmit generated topLevel) (inductionHypothesis _)
      · rw [if_neg topLevel]
        exact .cons (.embedded generated topLevel) (inductionHypothesis claimed)

/-- The results of a plan are those of the tasks, one by one; what is put together for a task does
not depend on the tasks before it. -/
theorem settled_make (repository : Repository) (suffix : String) (inputs : List repository.Member) :
    List.Forall₂
      (fun task result =>
        Settled task ((Resolver.direct repository suffix).synthesize task).run result)
      (repository.tasks inputs) (make repository suffix inputs).results := by
  have known : ∀ task ∈ repository.tasks inputs, task ∈ repository.declarations :=
    fun _ member => Repository.mem_of_mem_dispatch ((Repository.mem_tasks_iff _ _ _).mp member).1
  have settled := settled_claim [] (synthesizeTasks repository suffix (repository.tasks inputs))
  rw [synthesizeTasks_eq suffix _ known] at settled
  rw [make, synthesizeTasks_eq suffix _ known]
  exact List.forall₂_map_left_iff.mp settled

/-- Each result is that of a task. -/
theorem exists_task {result : TaskResult}
    (member : result ∈ (make repository suffix inputs).results) :
    ∃ task ∈ repository.tasks inputs, ∃ outcome,
      ((Resolver.direct repository suffix).synthesize task).run = outcome ∧
        Settled task outcome result := by
  obtain ⟨task, isTask, settled⟩ :=
    exists_mem_of_mem_right (settled_make repository suffix inputs) member
  exact ⟨task, isTask, _, rfl, settled⟩

/-- Each task has a result. -/
theorem exists_result {task : Declaration} (member : task ∈ repository.tasks inputs)
    {outcome : Except GenerationError GeneratedClass}
    (made : ((Resolver.direct repository suffix).synthesize task).run = outcome) :
    ∃ result ∈ (make repository suffix inputs).results, Settled task outcome result := by
  subst made
  exact exists_mem_of_mem_left (settled_make repository suffix inputs) member

theorem mem_classes_iff (plan : RoundPlan) (task : Declaration) (generated : GeneratedClass) :
    (task, generated) ∈ plan.classes ↔ .toEmit task generated ∈ plan.results := by
  rw [classes, List.mem_filterMap]
  constructor
  · rintro ⟨result, member, same⟩
    cases result with
    | toEmit _ _ =>
      cases same
      exact member
    | embedded _ => cases same
    | failed _ => cases same
  · exact fun member => ⟨_, member, rfl⟩

/-- A class that is to be emitted is the outermost class put together for a task. -/
theorem of_mem_classes_make {task : Declaration} {generated : GeneratedClass}
    (member : (task, generated) ∈ (make repository suffix inputs).classes) :
    task ∈ repository.tasks inputs ∧
      ((Resolver.direct repository suffix).synthesize task).run = .ok generated ∧
        generated.isTopLevel := by
  obtain ⟨other, isTask, outcome, made, settled⟩ := exists_task ((mem_classes_iff _ _ _).mp member)
  cases settled with
  | toEmit _ topLevel => exact ⟨isTask, made, topLevel⟩

/-- A class that counts as part of another one is a nested class put together for a task. -/
theorem of_embedded_mem_results {name : GeneratedName}
    (member : .embedded name ∈ (make repository suffix inputs).results) :
    ∃ task ∈ repository.tasks inputs, ∃ generated,
      ((Resolver.direct repository suffix).synthesize task).run = .ok generated ∧
        ¬ generated.isTopLevel ∧ generated.name = name := by
  obtain ⟨task, isTask, outcome, made, settled⟩ := exists_task member
  cases settled with
  | embedded generated nested => exact ⟨task, isTask, generated, made, nested, rfl⟩

/-- A task fails because its class cannot be put together or because the name is taken. -/
theorem reason_of_failed_mem_results {failure : ErrorReport}
    (member : .failed failure ∈ (make repository suffix inputs).results) :
    Resolver.IsSynthesisError failure.error ∨
      ∃ name first, failure.error = .nameCollision name first := by
  obtain ⟨task, _, outcome, made, settled⟩ := exists_task member
  cases settled with
  | failed error =>
    exact .inl (Resolver.failsOnly_synthesizeNest repository suffix _ error made)
  | taken generated first _ => exact .inr ⟨_, _, rfl⟩

/-- A task does not fail for the reason for which a declaration is rejected. -/
theorem error_ne_of_failed_mem_results {failure : ErrorReport}
    (member : .failed failure ∈ (make repository suffix inputs).results) :
    failure.error ≠ .notAnInterface := by
  intro rejected
  rcases reason_of_failed_mem_results member with reason | ⟨_, _, taken⟩
  · rw [rejected] at reason
    exact reason
  · cases rejected.symm.trans taken

/-- Whether no task of a plan fails. -/
def Succeeds (plan : RoundPlan) : Prop := ∀ failure, .failed failure ∉ plan.results

/-- Where no task fails, each task has a class. -/
theorem exists_synthesize_of_mem_tasks (succeeds : (make repository suffix inputs).Succeeds)
    {task : Declaration} (member : task ∈ repository.tasks inputs) :
    ∃ generated, ((Resolver.direct repository suffix).synthesize task).run = .ok generated := by
  cases made : ((Resolver.direct repository suffix).synthesize task).run with
  | ok generated => exact ⟨generated, rfl⟩
  | error error =>
    obtain ⟨result, resultMember, settled⟩ := exists_result member made
    cases settled with
    | failed _ => exact absurd resultMember (succeeds _)

/-- Where no task fails, the outermost classes of the tasks are to be emitted, all of them. -/
theorem mem_classes_make (succeeds : (make repository suffix inputs).Succeeds)
    {task : Declaration} {generated : GeneratedClass} (member : task ∈ repository.tasks inputs)
    (made : ((Resolver.direct repository suffix).synthesize task).run = .ok generated)
    (topLevel : generated.isTopLevel) :
    (task, generated) ∈ (make repository suffix inputs).classes := by
  obtain ⟨result, resultMember, settled⟩ := exists_result member made
  rw [mem_classes_iff]
  cases settled with
  | taken _ _ _ => exact absurd resultMember (succeeds _)
  | toEmit _ _ => exact resultMember
  | embedded _ nested => exact absurd topLevel nested

/-! ### The report -/

section Report

variable (plan : RoundPlan) (answers : List (Except EmissionError Unit))

theorem mem_filtered_iff (name : GeneratedName) :
    name ∈ (plan.report answers).filtered ↔ .embedded name ∈ plan.results := by
  rw [report, List.mem_filterMap]
  constructor
  · rintro ⟨result, member, same⟩
    cases result with
    | toEmit _ _ => cases same
    | embedded _ =>
      cases same
      exact member
    | failed _ => cases same
  · exact fun member => ⟨_, member, rfl⟩

/-- The errors of a report come from the rejected declarations, from tasks that failed and from
the emitter. -/
theorem errors_report :
    ∃ failures refusals, (plan.report answers).errors =
        plan.rejected.map (fun declaration => ⟨declaration.qualifiedName, .notAnInterface⟩) ++
          failures ++ refusals ∧
      (∀ failure, failure ∈ failures ↔ .failed failure ∈ plan.results) ∧
      ∀ refusal ∈ refusals, ∃ task cause, refusal = ⟨task, .emission cause⟩ := by
  refine ⟨_, _, rfl, fun failure => ?_, fun refusal member => ?_⟩
  · rw [List.mem_filterMap]
    constructor
    · rintro ⟨result, member, same⟩
      cases result with
      | toEmit _ _ => cases same
      | embedded _ => cases same
      | failed _ =>
        cases same
        exact member
    · exact fun member => ⟨_, member, rfl⟩
  · obtain ⟨⟨⟨task, _⟩, answer⟩, _, same⟩ := List.mem_filterMap.mp member
    cases answer with
    | ok _ => cases same
    | error cause =>
      cases same
      exact ⟨_, cause, rfl⟩

/-- In a report without errors no declaration is rejected and no task fails. -/
theorem of_errors_eq_nil (errorFree : (plan.report answers).errors = []) :
    plan.rejected = [] ∧ plan.Succeeds := by
  obtain ⟨failures, refusals, split, failed, _⟩ := plan.errors_report answers
  rw [split, List.append_eq_nil_iff, List.append_eq_nil_iff, List.map_eq_nil_iff] at errorFree
  obtain ⟨⟨nothingRejected, rfl⟩, _⟩ := errorFree
  exact ⟨nothingRejected, fun failure member => List.not_mem_nil ((failed failure).mpr member)⟩

/-- In a report without errors the emitter took all that was to be emitted. -/
theorem emitted_of_errors_eq_nil (answered : answers.length = plan.classes.length)
    (errorFree : (plan.report answers).errors = []) :
    (plan.report answers).emitted = plan.classes.map fun (_, generated) => generated.name := by
  have noRefusal := (List.append_eq_nil_iff.mp errorFree).2
  clear errorFree
  unfold report
  generalize plan.classes = classes at answered noRefusal ⊢
  induction classes generalizing answers with
  | nil => rfl
  | cons first rest inductionHypothesis =>
    cases answers with
    | nil => cases answered
    | cons answer others =>
      cases answer with
      | error cause => cases noRefusal
      | ok _ =>
        have later := inductionHypothesis others (Nat.succ.inj answered) noRefusal
        exact congrArg (List.cons first.2.name) later

end Report

end RoundPlan

namespace Round

variable {State : Type}

/-- An emitter gives one answer to each class. -/
theorem length_answers (emit : Emitter (StateM State)) (render : GeneratedClass → CompilationUnit)
    (classes : List (Declaration × GeneratedClass)) (state : State) :
    ((classes.mapM fun ((_, generated) : Declaration × GeneratedClass) =>
      emit (render generated)).run state).1.length = classes.length := by
  induction classes generalizing state with
  | nil => rfl
  | cons first rest inductionHypothesis =>
    rw [List.mapM_cons, List.length_cons, ← inductionHypothesis _]
    rfl

/-- Whatever the emitter does, the report is that of the plan with some answers, one for each class
that is to be emitted. -/
theorem exists_answers (repository : Repository) (config : Config) (now : String)
    (inputs : List repository.Member) (emit : Emitter (StateM State)) (state : State) :
    ∃ answers : List (Except EmissionError Unit),
      answers.length = (RoundPlan.make repository config.suffix inputs).classes.length ∧
        ((runWith repository config now inputs emit).run state).1 =
          (RoundPlan.make repository config.suffix inputs).report answers :=
  ⟨_, length_answers emit (·.render (options config now)) _ state, rfl⟩

/-- Where a round reports no error, nothing is rejected, no task fails and all that is to be emitted
is emitted. -/
theorem of_errors_eq_nil {repository : Repository} {config : Config} {now : String}
    {inputs : List repository.Member} {emit : Emitter (StateM State)} {state : State}
    (errorFree : ((runWith repository config now inputs emit).run state).1.errors = []) :
    repository.rejected inputs = [] ∧
      (RoundPlan.make repository config.suffix inputs).Succeeds ∧
        ((runWith repository config now inputs emit).run state).1.emitted =
          (RoundPlan.make repository config.suffix inputs).classes.map
            fun (_, generated) => generated.name := by
  obtain ⟨answers, answered, same⟩ := exists_answers repository config now inputs emit state
  rw [same] at errorFree ⊢
  obtain ⟨nothingRejected, succeeds⟩ := RoundPlan.of_errors_eq_nil _ _ errorFree
  exact ⟨nothingRejected, succeeds, RoundPlan.emitted_of_errors_eq_nil _ _ answered errorFree⟩

end Round

end ValueGen
