/-
This file says what the order of the declarations means for a round over all that are marked. The
tasks are the same, and so is the name of the class of each of them. A name that several tasks
claim goes to one of them, which is the first, and fails the others; so the names that are offered
and the number of the tasks that fail over each name do not depend on the order.
-/

import ValueGen.Proofs.Reordering
import ValueGen.Proofs.Round.Isolation

namespace ValueGen

open Repository

/-! ### Errors of a kind -/

namespace Resolver

instance : DecidablePred IsSynthesisError
  | .missingMarker _ => .isTrue trivial
  | .invalidType _ _ => .isTrue trivial
  | .duplicateField _ _ => .isTrue trivial
  | .notAnInterface => .isFalse id
  | .nameCollision _ _ => .isFalse id
  | .emission _ => .isFalse id

end Resolver

/-- The name that is taken, if that is the error. -/
def GenerationError.takenName? : GenerationError → Option String
  | nameCollision name _ => some name
  | _ => none

namespace ErrorReport

/-- The names of the declarations that fail for a reason of a kind. -/
def failing (kind : GenerationError → Prop) [DecidablePred kind] (errors : List ErrorReport) :
    List String :=
  errors.filterMap fun failure => if kind failure.error then some failure.declaration else none

/-- The generated names that were taken, each as often as a class could not have it. -/
def contested (errors : List ErrorReport) : List String :=
  errors.filterMap (·.error.takenName?)

end ErrorReport

/-! ### The names of the classes -/

namespace RoundPlan

/-- The name of the class that is put together for a task, if there is one. -/
def className? (repository : Repository) (suffix : String) (task : Declaration) :
    Option GeneratedName :=
  match ((Resolver.direct repository suffix).synthesize task).run with
  | .ok generated => some generated.name
  | .error _ => none

/-- The name that a task claims, if an outermost class is put together for it. -/
def claimedName? (repository : Repository) (suffix : String) (task : Declaration) :
    Option String :=
  ((className? repository suffix task).filter (·.isTopLevel)).map (·.qualified)

/-- The name of the class that is put together for a task, if it is nested in another class. -/
def nestedName? (repository : Repository) (suffix : String) (task : Declaration) :
    Option GeneratedName :=
  (className? repository suffix task).filter (! ·.isTopLevel)

section Names

variable {repository : Repository} {suffix : String} {task : Declaration}

theorem className?_of_ok {generated : GeneratedClass}
    (made : ((Resolver.direct repository suffix).synthesize task).run = .ok generated) :
    className? repository suffix task = some generated.name := by
  rw [className?, made]

theorem names_of_error {error : GenerationError}
    (fails : ((Resolver.direct repository suffix).synthesize task).run = .error error) :
    className? repository suffix task = none ∧ claimedName? repository suffix task = none ∧
      nestedName? repository suffix task = none := by
  have named : className? repository suffix task = none := by
    rw [className?, fails]
  rw [claimedName?, nestedName?, named]
  exact ⟨rfl, rfl, rfl⟩

theorem names_of_topLevel {generated : GeneratedClass}
    (made : ((Resolver.direct repository suffix).synthesize task).run = .ok generated)
    (topLevel : generated.isTopLevel) :
    claimedName? repository suffix task = some generated.name.qualified ∧
      nestedName? repository suffix task = none := by
  replace topLevel : generated.name.isTopLevel = true := topLevel
  rw [claimedName?, nestedName?, className?_of_ok made, Option.filter_some, Option.filter_some,
    topLevel]
  exact ⟨rfl, rfl⟩

theorem names_of_nested {generated : GeneratedClass}
    (made : ((Resolver.direct repository suffix).synthesize task).run = .ok generated)
    (nested : ¬ generated.isTopLevel) :
    claimedName? repository suffix task = none ∧
      nestedName? repository suffix task = some generated.name := by
  replace nested : generated.name.isTopLevel = false := Bool.eq_false_of_not_eq_true nested
  rw [claimedName?, nestedName?, className?_of_ok made, Option.filter_some, Option.filter_some,
    nested]
  exact ⟨rfl, rfl⟩

theorem claims_iff (name : String) :
    claims repository suffix name task ↔ claimedName? repository suffix task = some name := by
  cases made : ((Resolver.direct repository suffix).synthesize task).run with
  | error error =>
    rw [claims_of_error made, (names_of_error made).2.1]
    exact ⟨fun impossible => (by cases impossible), fun impossible => (by cases impossible)⟩
  | ok generated =>
    by_cases topLevel : generated.isTopLevel
    · rw [claims_of_topLevel made topLevel, (names_of_topLevel made topLevel).1,
        decide_eq_true_eq, Option.some_inj]
    · rw [claims_of_nested made topLevel, (names_of_nested made topLevel).1]
      exact ⟨fun impossible => (by cases impossible), fun impossible => (by cases impossible)⟩

end Names

/-! ### What becomes of the tasks -/

section Results

variable {repository : Repository} {suffix : String} {tasks : List Declaration}
  {results : List TaskResult}
  (settled : List.Forall₂ (fun task result =>
    Settled task ((Resolver.direct repository suffix).synthesize task).run result) tasks results)

include settled

theorem filtered_results :
    results.filterMap TaskResult.filtered? = tasks.filterMap (nestedName? repository suffix) := by
  induction settled with
  | nil => rfl
  | @cons task result tasks results here _ inductionHypothesis =>
    rw [List.filterMap_cons, List.filterMap_cons]
    generalize made : ((Resolver.direct repository suffix).synthesize task).run = outcome at here
    cases here with
    | failed error =>
      rw [(names_of_error made).2.2]
      exact inductionHypothesis
    | taken generated first topLevel =>
      rw [(names_of_topLevel made topLevel).2]
      exact inductionHypothesis
    | toEmit generated topLevel =>
      rw [(names_of_topLevel made topLevel).2]
      exact inductionHypothesis
    | embedded generated nested =>
      rw [(names_of_nested made nested).2]
      exact congrArg (List.cons _) inductionHypothesis

/-- The tasks that fail before names are compared are those without a class. -/
theorem failing_results :
    ErrorReport.failing Resolver.IsSynthesisError (results.filterMap TaskResult.failure?) =
      (tasks.filter fun task => className? repository suffix task = none).map
        (·.qualifiedName) := by
  induction settled with
  | nil => rfl
  | @cons task result tasks results here _ inductionHypothesis =>
    rw [List.filter_cons]
    generalize made : ((Resolver.direct repository suffix).synthesize task).run = outcome at here
    cases here with
    | failed error =>
      have reason := Resolver.failsOnly_synthesizeNest repository suffix _ error made
      rw [if_pos (decide_eq_true (names_of_error made).1), List.map_cons, ← inductionHypothesis]
      exact List.filterMap_cons_some (if_pos reason)
    | taken generated first topLevel =>
      rw [className?_of_ok made]
      exact inductionHypothesis
    | toEmit generated topLevel =>
      rw [className?_of_ok made]
      exact inductionHypothesis
    | embedded generated nested =>
      rw [className?_of_ok made]
      exact inductionHypothesis

/-- A name that a task claims is that of the class that is to be emitted for it, or the task fails
over it. -/
theorem perm_claimed (rejected : List Declaration) :
    (ErrorReport.contested (results.filterMap TaskResult.failure?) ++
        (classes ⟨rejected, results⟩).map (·.2.name.qualified)).Perm
      (tasks.filterMap (claimedName? repository suffix)) := by
  induction settled with
  | nil => exact .nil
  | @cons task result tasks results here _ inductionHypothesis =>
    rw [List.filterMap_cons, List.filterMap_cons]
    generalize made : ((Resolver.direct repository suffix).synthesize task).run = outcome at here
    cases here with
    | failed error =>
      have reason := Resolver.failsOnly_synthesizeNest repository suffix _ error made
      rw [(names_of_error made).2.1]
      cases error with
      | missingMarker _ | invalidType _ _ | duplicateField _ _ => exact inductionHypothesis
      | notAnInterface | nameCollision _ _ | emission _ => exact reason.elim
    | taken generated first topLevel =>
      rw [(names_of_topLevel made topLevel).1]
      exact inductionHypothesis.cons _
    | toEmit generated topLevel =>
      rw [(names_of_topLevel made topLevel).1]
      exact List.perm_middle.trans (inductionHypothesis.cons _)
    | embedded generated nested =>
      rw [(names_of_nested made nested).1]
      exact inductionHypothesis

end Results

/-! ### The claimants of a name -/

section Claimants

variable {repository : Repository} {suffix : String} {inputs : List repository.Member}

/-- The first task to claim a name has its class emitted under it. -/
theorem mem_classes_of_claimant {name : String} {task : Declaration}
    (claimed : claimant? repository suffix (repository.tasks inputs) name = some task) :
    ∃ generated, (task, generated) ∈ (make repository suffix inputs).classes ∧
      generated.name.qualified = name := by
  have answered := List.length_replicate (n := (make repository suffix inputs).classes.length)
    (a := (Except.ok () : Except EmissionError Unit))
  have offers := (filterMap_entries (make repository suffix inputs).rejected
    (make repository suffix inputs).results _ answered).1
  have isTask := List.mem_of_find?_eq_some claimed
  have claiming := (claims_iff _).mp (List.find?_some claimed)
  obtain ⟨entry, isEntry, accounted⟩ :=
    exists_mem_of_mem_left (accounted_make repository suffix inputs _ answered) isTask
  cases accounted with
  | failed fails => cases claiming.symm.trans (names_of_error fails).2.1
  | filtered made nested => cases claiming.symm.trans (names_of_nested made nested).1
  | taken made topLevel first other =>
    obtain rfl := Option.some.inj (claiming.symm.trans (names_of_topLevel made topLevel).1)
    exact absurd (Option.some.inj (first.symm.trans claimed)) other
  | @offered generated made topLevel _ answer =>
    have offered := List.mem_filterMap.mpr ⟨_, isEntry, (rfl : Entry.offer? _ = some _)⟩
    rw [← offers] at offered
    exact ⟨generated, (List.of_mem_zip offered).1,
      (Option.some.inj (claiming.symm.trans (names_of_topLevel made topLevel).1)).symm⟩

/-- The names that go to the emitter are those that some task claims. -/
theorem mem_names_classes_iff (name : String) :
    name ∈ (make repository suffix inputs).classes.map (·.2.name.qualified) ↔
      name ∈ (repository.tasks inputs).filterMap (claimedName? repository suffix) := by
  have claimed := perm_claimed (settled_make repository suffix inputs)
    (make repository suffix inputs).rejected
  constructor
  · intro member
    exact claimed.mem_iff.mp (List.mem_append_right _ member)
  · intro member
    obtain ⟨task, isTask, claiming⟩ := List.mem_filterMap.mp member
    have some : (claimant? repository suffix (repository.tasks inputs) name).isSome :=
      List.find?_isSome.mpr ⟨task, isTask, (claims_iff name).mpr claiming⟩
    obtain ⟨first, isFirst⟩ := Option.isSome_iff_exists.mp some
    obtain ⟨generated, isClass, named⟩ := mem_classes_of_claimant isFirst
    exact List.mem_map.mpr ⟨_, isClass, named⟩

end Claimants

/-! ### The same declarations in another order -/

section Perm

variable {first second : Repository}
  (reordered : first.declarations.Perm second.declarations)

include reordered

theorem className?_of_perm (suffix : String) :
    className? first suffix = className? second suffix := by
  funext task
  cases made : ((Resolver.direct first suffix).synthesize task).run with
  | ok generated =>
    obtain ⟨other, otherMade, rearranged⟩ := Resolver.exists_rearranged reordered made
    rw [className?_of_ok made, className?_of_ok otherMade, rearranged.name_eq]
  | error error =>
    obtain ⟨other, otherFails⟩ := (Resolver.fails_iff_of_perm reordered suffix task).mp ⟨_, made⟩
    rw [(names_of_error made).1, (names_of_error otherFails).1]

theorem claimedName?_of_perm (suffix : String) :
    claimedName? first suffix = claimedName? second suffix := by
  funext task
  rw [claimedName?, claimedName?, className?_of_perm reordered]

theorem nestedName?_of_perm (suffix : String) :
    nestedName? first suffix = nestedName? second suffix := by
  funext task
  rw [nestedName?, nestedName?, className?_of_perm reordered]

theorem perm_tasks :
    (first.tasks first.markedMembers).Perm (second.tasks second.markedMembers) := by
  refine (List.perm_ext_iff_of_nodup (Round.nodup_tasks _ _) (Round.nodup_tasks _ _)).mpr ?_
  intro task
  rw [mem_tasks_marked_iff, mem_tasks_marked_iff, reordered.mem_iff,
    markerOf?_of_perm reordered]

theorem perm_rejected :
    (first.rejected first.markedMembers).Perm (second.rejected second.markedMembers) := by
  refine (List.perm_ext_iff_of_nodup (Round.nodup_rejected _ _) (Round.nodup_rejected _ _)).mpr ?_
  intro declaration
  rw [mem_rejected_iff, mem_rejected_iff, mem_dispatch_marked_iff, mem_dispatch_marked_iff,
    reordered.mem_iff, ← markerOf?_isSome_iff, ← markerOf?_isSome_iff,
    markerOf?_of_perm reordered]

/-- The names that go to the emitter do not depend on the order. -/
theorem perm_names_classes (suffix : String) :
    ((make first suffix first.markedMembers).classes.map (·.2.name.qualified)).Perm
      ((make second suffix second.markedMembers).classes.map (·.2.name.qualified)) := by
  refine (List.perm_ext_iff_of_nodup (nodup_names_classes _ _ _)
    (nodup_names_classes _ _ _)).mpr fun name => ?_
  rw [mem_names_classes_iff, mem_names_classes_iff, claimedName?_of_perm reordered]
  exact ((perm_tasks reordered).filterMap _).mem_iff

/-- Over each name as many tasks fail in one order as in the other one. -/
theorem perm_contested (suffix : String) :
    (ErrorReport.contested
        ((make first suffix first.markedMembers).results.filterMap TaskResult.failure?)).Perm
      (ErrorReport.contested
        ((make second suffix second.markedMembers).results.filterMap TaskResult.failure?)) := by
  have here := perm_claimed (settled_make first suffix first.markedMembers)
    (make first suffix first.markedMembers).rejected
  have there := perm_claimed (settled_make second suffix second.markedMembers)
    (make second suffix second.markedMembers).rejected
  have claimed := (perm_tasks reordered).filterMap (claimedName? first suffix)
  nth_rewrite 2 [claimedName?_of_perm reordered] at claimed
  refine (List.perm_append_right_iff _).mp (here.trans (claimed.trans (there.symm.trans ?_)))
  exact (perm_names_classes reordered suffix).symm.append_left _

end Perm

end RoundPlan

/-! ### Reports -/

namespace Decisions.Tells

open ErrorReport

variable {decided : Decisions} {log : EmissionLog} {report : RoundReport}
  (told : decided.Tells log report)

include told

/-- What is read off the errors of a report is read off what has failed before, if it has nothing to
do with refusals. -/
theorem filterMap_errors {Told : Type} {look : ErrorReport → Option Told}
    (silent : ∀ declaration cause, look ⟨declaration, .emission cause⟩ = none) :
    report.errors.filterMap look = decided.failures.filterMap look := by
  rw [told.errors, List.filterMap_append]
  refine (congrArg (_ ++ ·) (List.filterMap_eq_nil_iff.mpr ?_)).trans (List.append_nil _)
  intro failure member
  obtain ⟨⟨task, unit⟩, _, same⟩ := List.mem_filterMap.mp member
  rw [refused?] at same
  cases found : log.lookup unit with
  | none =>
    rw [found] at same
    cases same
  | some answer =>
    rw [found] at same
    cases answer with
    | ok _ => cases same
    | error cause =>
      cases same
      exact silent task.qualifiedName cause

theorem failing_errors {kind : GenerationError → Prop} [DecidablePred kind]
    (silent : ∀ cause, ¬ kind (.emission cause)) :
    failing kind report.errors = failing kind decided.failures :=
  told.filterMap_errors fun _ cause => if_neg (silent cause)

theorem contested_errors : contested report.errors = contested decided.failures :=
  told.filterMap_errors fun _ _ => rfl

end Decisions.Tells

namespace Round

open RoundPlan ErrorReport

section Failures

variable (repository : Repository) (config : Config) (now : String)
  (inputs : List repository.Member)

theorem mem_failures_results (failure : ErrorReport) :
    failure ∈ (make repository config.suffix inputs).results.filterMap TaskResult.failure? ↔
      .failed failure ∈ (make repository config.suffix inputs).results := by
  rw [List.mem_filterMap]
  constructor
  · rintro ⟨result, member, same⟩
    cases result with
    | failed report => exact Option.some.inj same ▸ member
    | toEmit _ _ => cases same
    | embedded _ => cases same
  · exact fun member => ⟨_, member, rfl⟩

/-- What fails first is the rejected declarations. -/
theorem failing_notAnInterface :
    failing (· = .notAnInterface) (decisions repository config now inputs).failures =
      (repository.rejected inputs).map (·.qualifiedName) := by
  have tasksPass : failing (· = .notAnInterface)
      ((make repository config.suffix inputs).results.filterMap TaskResult.failure?) = [] := by
    refine List.filterMap_eq_nil_iff.mpr fun failure member => if_neg ?_
    exact error_ne_of_failed_mem_results ((mem_failures_results _ _ _ _).mp member)
  refine List.filterMap_append.trans ((congrArg (_ ++ ·) tasksPass).trans ?_)
  rw [List.append_nil, List.filterMap_map, ← List.filterMap_eq_map]
  rfl

theorem failing_isSynthesisError :
    failing Resolver.IsSynthesisError (decisions repository config now inputs).failures =
      ((repository.tasks inputs).filter fun task =>
        className? repository config.suffix task = none).map (·.qualifiedName) := by
  have rejectionsPass :
      failing Resolver.IsSynthesisError (rejections repository inputs) = [] :=
    List.filterMap_eq_nil_iff.mpr (List.forall_mem_map.mpr fun _ _ => if_neg id)
  refine List.filterMap_append.trans ((congrArg (· ++ _) rejectionsPass).trans ?_)
  exact failing_results (settled_make repository config.suffix inputs)

theorem contested_failures :
    contested (decisions repository config now inputs).failures = contested
      ((make repository config.suffix inputs).results.filterMap TaskResult.failure?) := by
  have rejectionsPass : contested (rejections repository inputs) = [] :=
    List.filterMap_eq_nil_iff.mpr (List.forall_mem_map.mpr fun _ _ => rfl)
  exact List.filterMap_append.trans (congrArg (· ++ _) rejectionsPass)

end Failures

/-! ### The whole round -/

/-- What the reports of two rounds over the same marked declarations in different orders have in
common, whatever the emitters of the rounds do. -/
structure SameBesidesOrder (report other : RoundReport) : Prop where
  /-- The same nested classes are part of others. -/
  filtered : report.filtered.Perm other.filtered
  /-- The same declarations are rejected. -/
  rejected : (failing (· = .notAnInterface) report.errors).Perm
    (failing (· = .notAnInterface) other.errors)
  /-- For the same declarations no class can be put together. -/
  unmade : (failing Resolver.IsSynthesisError report.errors).Perm
    (failing Resolver.IsSynthesisError other.errors)
  /-- Over each name the same number of tasks fail. -/
  contested : (contested report.errors).Perm (contested other.errors)

/-- How the order of the declarations matters where a repository holds those of another one. -/
structure OrderIndependence (repository other : Repository) : Prop where
  /-- The same marker is in effect. -/
  marker : ∀ declaration, repository.markerOf? declaration = other.markerOf? declaration
  /-- Names are found the same, strictly and leniently. -/
  resolve : ∀ suffix strictness declaration,
    Naming.resolve repository suffix strictness declaration =
      Naming.resolve other suffix strictness declaration
  /-- With a cache that holds the same, too. -/
  resolve_cached : ∀ suffix strictness declaration cache,
    (NameCache.resolve repository suffix strictness declaration).run cache =
      (NameCache.resolve other suffix strictness declaration).run cache
  /-- Types are rewritten the same. -/
  rewrite : ∀ suffix type,
    ((Resolver.direct repository suffix).rewrite type).run =
      ((Resolver.direct other suffix).rewrite type).run
  rewrite_cached : ∀ suffix type cache,
    ((Resolver.remembering repository suffix).rewrite type).run cache =
      ((Resolver.remembering other suffix).rewrite type).run cache
  /-- A class differs in the order of the nested classes only. -/
  classes : ∀ suffix declaration generated,
    ((Resolver.direct repository suffix).synthesize declaration).run = .ok generated →
      ∃ again, ((Resolver.direct other suffix).synthesize declaration).run = .ok again ∧
        generated.Rearranged again
  /-- The error that is told of a declaration without a class is a fault in both orders. -/
  faults : ∀ suffix declaration error,
    ((Resolver.direct repository suffix).synthesize declaration).run = .error error →
      Resolver.Fault repository suffix declaration error ∧
        Resolver.Fault other suffix declaration error
  /-- The reports of rounds agree, whatever the emitters and the orders of the offers are. -/
  reports : ∀ (config : Config) (now otherNow : String) {State OtherState : Type}
    (emit : Emitter (StateM State)) (otherEmit : Emitter (StateM OtherState)) (state : State)
    (otherState : OtherState) (turns otherTurns : Turns),
      SameBesidesOrder
        ((runInOrder repository config now repository.markedMembers emit turns).run state).1
        ((runInOrder other config otherNow other.markedMembers otherEmit otherTurns).run
          otherState).1
  /-- If the emitters take all that they are offered, classes of the same names are emitted. -/
  emitted : ∀ (config : Config) (now otherNow : String) {State OtherState : Type}
    (emit : Emitter (StateM State)) (otherEmit : Emitter (StateM OtherState)) (state : State)
    (otherState : OtherState) (turns otherTurns : Turns),
      (∀ entry ∈ ((runInOrder repository config now repository.markedMembers emit.logging
        turns).run (state, [])).2.2, entry.2 = .ok ()) →
      (∀ entry ∈ ((runInOrder other config otherNow other.markedMembers otherEmit.logging
        otherTurns).run (otherState, [])).2.2, entry.2 = .ok ()) →
      (((runInOrder repository config now repository.markedMembers emit turns).run
          state).1.emitted.map (·.qualified)).Perm
        (((runInOrder other config otherNow other.markedMembers otherEmit otherTurns).run
          otherState).1.emitted.map (·.qualified))
  /-- Each unit that is offered has a counterpart of the same name. Where one task alone claims the
  name, it is for that task, and where it is for the same task, it differs in the order of the
  nested classes only. -/
  offers : ∀ (config : Config) (now : String),
    ∀ offer ∈ (decisions repository config now repository.markedMembers).offers,
      ∃ again ∈ (decisions other config now other.markedMembers).offers,
        again.2.name.qualified = offer.2.name.qualified ∧
          ((∀ task ∈ repository.tasks repository.markedMembers,
            claims repository config.suffix offer.2.name.qualified task → task = offer.1) →
              again.1 = offer.1) ∧
          (again.1 = offer.1 → ∃ generated rearranged : GeneratedClass,
            generated.render (options config now) = offer.2 ∧
              rearranged.render (options config now) = again.2 ∧
                generated.Rearranged rearranged)

/-- Where an emitter has taken all that it was offered, all of it is emitted. -/
theorem emitted_of_taken {repository : Repository} {config : Config} {now : String}
    {inputs : List repository.Member} {log : EmissionLog} {report : RoundReport}
    (told : (decisions repository config now inputs).Tells log report)
    (taken : ∀ entry ∈ log, entry.2 = .ok ()) :
    report.emitted.map (·.qualified) =
      (make repository config.suffix inputs).classes.map (·.2.name.qualified) := by
  have found := @lookup_of_mem_offers _ _ _ (fun _ => .ok ()) told
    (nodup_names_offers repository config now inputs) fun entry member => (taken entry member).symm
  have accepted : ∀ offer ∈ (decisions repository config now inputs).offers,
      Decisions.accepted? log offer = some offer.2.name := fun offer member => by
    rw [Decisions.accepted?, found offer member]
  rw [told.emitted, List.filterMap_congr accepted, List.filterMap_eq_map', List.map_map, decisions,
    RoundPlan.decisions, List.map_map]
  rfl

section Perm

variable {first second : Repository}
  (reordered : first.declarations.Perm second.declarations)

include reordered

theorem sameBesidesOrder_of_tells {config : Config} {now otherNow : String}
    {log otherLog : EmissionLog} {report other : RoundReport}
    (told : (decisions first config now first.markedMembers).Tells log report)
    (otherTold : (decisions second config otherNow second.markedMembers).Tells otherLog other) :
    SameBesidesOrder report other := by
  refine ⟨?_, ?_, ?_, ?_⟩
  · rw [told.filtered, otherTold.filtered]
    have here := filtered_results (settled_make first config.suffix first.markedMembers)
    have there := filtered_results (settled_make second config.suffix second.markedMembers)
    rw [← nestedName?_of_perm reordered] at there
    exact .trans (.of_eq here)
      (((perm_tasks reordered).filterMap _).trans (.of_eq there.symm))
  · rw [told.failing_errors fun _ => nofun, otherTold.failing_errors fun _ => nofun,
      failing_notAnInterface, failing_notAnInterface]
    exact (perm_rejected reordered).map _
  · rw [told.failing_errors fun _ => id, otherTold.failing_errors fun _ => id,
      failing_isSynthesisError, failing_isSynthesisError, className?_of_perm reordered]
    exact ((perm_tasks reordered).filter _).map _
  · rw [told.contested_errors, otherTold.contested_errors, contested_failures,
      contested_failures]
    exact perm_contested reordered config.suffix

theorem exists_offer_of_perm (config : Config) (now : String)
    {offer : Declaration × CompilationUnit}
    (member : offer ∈ (decisions first config now first.markedMembers).offers) :
    ∃ again ∈ (decisions second config now second.markedMembers).offers,
      again.2.name.qualified = offer.2.name.qualified ∧
        ((∀ task ∈ first.tasks first.markedMembers,
          claims first config.suffix offer.2.name.qualified task → task = offer.1) →
            again.1 = offer.1) ∧
        (again.1 = offer.1 → ∃ generated rearranged : GeneratedClass,
          generated.render (options config now) = offer.2 ∧
            rearranged.render (options config now) = again.2 ∧
              generated.Rearranged rearranged) := by
  obtain ⟨⟨task, generated⟩, isClass, rfl⟩ := List.mem_map.mp member
  obtain ⟨_, made, _⟩ := of_mem_classes_make isClass
  have named := (perm_names_classes reordered config.suffix).mem_iff.mp
    (List.mem_map_of_mem isClass)
  obtain ⟨⟨otherTask, other⟩, otherIsClass, same⟩ := List.mem_map.mp named
  obtain ⟨otherIsTask, otherMade, otherTopLevel⟩ := of_mem_classes_make otherIsClass
  refine ⟨_, List.mem_map_of_mem otherIsClass, same, fun alone => ?_, fun sameTask => ?_⟩
  · refine alone otherTask ((perm_tasks reordered).mem_iff.mpr otherIsTask) ?_
    rw [claims_iff, claimedName?_of_perm reordered, (names_of_topLevel otherMade otherTopLevel).1]
    exact congrArg some same
  · obtain ⟨again, againMade, rearranged⟩ := Resolver.exists_rearranged reordered made
    obtain rfl : otherTask = task := sameTask
    obtain rfl := Except.ok.inj (againMade.symm.trans otherMade)
    exact ⟨generated, _, rfl, rfl, rearranged⟩

end Perm

/-- The order of the declarations does not matter for what is generated. It decides the order of
the report and of nested classes, which of the tasks that claim one name gets it, and which of the
faults in a declaration is told. -/
theorem orderIndependence_ofList {declarations reordered : List Declaration}
    {repository : Repository} (accepted : Repository.ofList declarations = .ok repository)
    (order : declarations.Perm reordered) :
    ∃ other, Repository.ofList reordered = .ok other ∧ OrderIndependence repository other := by
  obtain rfl := declarations_of_ofList accepted
  obtain ⟨other, otherAccepted⟩ :=
    Repository.exists_ofList ((order.map (·.qualifiedName)).nodup_iff.mp repository.distinct)
  obtain rfl := declarations_of_ofList otherAccepted
  refine ⟨other, otherAccepted, ?_⟩
  have agree := Resolver.agree_direct order
  have agreeCached := Resolver.agree_remembering order
  exact {
    marker := fun declaration => by rw [markerOf?_of_perm order]
    resolve := fun suffix strictness declaration => by rw [Naming.resolve_of_perm order]
    resolve_cached := fun suffix strictness declaration cache => by
      rw [NameCache.resolve_of_perm order]
    rewrite := fun suffix type => by rw [(agree suffix).rewrite]
    rewrite_cached := fun suffix type cache => by rw [(agreeCached suffix).rewrite]
    classes := fun suffix declaration generated made => Resolver.exists_rearranged order made
    faults := fun suffix declaration error fails =>
      have fault := Resolver.fault_of_error fails
      ⟨fault, (Resolver.fault_of_perm order suffix declaration error).mp fault⟩
    reports := fun config now otherNow State OtherState emit otherEmit state otherState turns
        otherTurns => by
      obtain ⟨log, _, told⟩ :=
        tells_runInOrder repository config now repository.markedMembers emit state turns
      obtain ⟨otherLog, _, otherTold⟩ :=
        tells_runInOrder other config otherNow other.markedMembers otherEmit otherState otherTurns
      exact sameBesidesOrder_of_tells order told otherTold
    emitted := fun config now otherNow State OtherState emit otherEmit state otherState turns
        otherTurns taken otherTaken => by
      obtain ⟨log, logged, told⟩ :=
        tells_runInOrder repository config now repository.markedMembers emit state turns
      obtain ⟨otherLog, otherLogged, otherTold⟩ :=
        tells_runInOrder other config otherNow other.markedMembers otherEmit otherState otherTurns
      rw [logged] at taken
      rw [otherLogged] at otherTaken
      rw [emitted_of_taken told taken, emitted_of_taken otherTold otherTaken]
      exact perm_names_classes order config.suffix
    offers := fun config now offer member => exists_offer_of_perm order config now member }

theorem orderIndependence_ofList_clashing :
    Repository.ofList clashingRepository.declarations = .ok clashingRepository ∧
      clashingRepository.declarations.Perm clashingRepository.declarations.reverse ∧
      ∃ other, Repository.ofList clashingRepository.declarations.reverse = .ok other ∧
        OrderIndependence clashingRepository other :=
  ⟨rfl, (List.reverse_perm _).symm, orderIndependence_ofList rfl (List.reverse_perm _).symm⟩

/-- The other way round the other claimant gets the name, and the report is in another order. -/
example : ((run ⟨clashingRepository.declarations.reverse, by decide⟩ .default ""
    Emitter.inMemory).run []).1 =
      ⟨[⟨"pkg", "User", []⟩], [⟨"pkg", "User", ["Address"]⟩],
        [⟨"pkg.Kind", .notAnInterface⟩,
          ⟨"pkg.Broken", .invalidType "pkg.Broken#key" (.unexpected "?" 0 "?")⟩,
          ⟨"pkg.UserPOJO", .nameCollision "pkg.User" "pkg.Account"⟩]⟩ := by
  decide +kernel

end Round

end ValueGen
