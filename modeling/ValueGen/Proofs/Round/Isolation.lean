/-
This file says that a task with nothing to emit leaves no trace in a round: without it the other
tasks have the same results, the emitter is offered the same units, and the report lacks nothing but
the entry of the task. A task takes a name only where its class is to be emitted, and what is put
together for one task does not depend on the others.
-/

import ValueGen.Proofs.Round.AnyOrder

namespace ValueGen

/-! ### Rounds over interfaces -/

namespace Repository

variable {repository : Repository} {inputs : List repository.Member}

/-- A walk from distinct interfaces comes to nothing else. -/
theorem visit_of_interfaces (repository : Repository) {pending undispatched : List Declaration}
    (known : ∀ input ∈ pending, input ∈ undispatched ∧ input.kind = .interface)
    (distinct : (undispatched.map (·.qualifiedName)).Nodup)
    (once : (pending.map (·.qualifiedName)).Nodup) :
    repository.visit pending undispatched = pending := by
  induction pending generalizing undispatched with
  | nil => rw [visit]
  | cons input rest inductionHypothesis =>
    rw [List.forall_mem_cons] at known
    obtain ⟨⟨member, isInterface⟩, others⟩ := known
    rw [List.map_cons, List.nodup_cons] at once
    have found := (find?_name_eq_some_iff distinct _ input).mpr ⟨member, rfl⟩
    have noGroup : repository.membersOf input = [] :=
      if_neg (by rw [isInterface]; decide)
    rw [visit_of_found found, noGroup, List.nil_append]
    refine congrArg (List.cons input) (inductionHypothesis ?_ (distinct_without distinct _) once.2)
    intro other isLater
    obtain ⟨otherMember, otherInterface⟩ := others other isLater
    refine ⟨(mem_without_iff _ _ _).mpr ⟨otherMember, fun same => once.1 ?_⟩, otherInterface⟩
    exact same ▸ List.mem_map_of_mem isLater

section Interfaces

variable (interfaces : ∀ input ∈ inputs, input.val.kind = .interface) (once : inputs.Nodup)

include interfaces once

theorem dispatch_of_interfaces : repository.dispatch inputs = inputs.unattach := by
  have known : ∀ input ∈ inputs.unattach,
      input ∈ repository.declarations ∧ input.kind = .interface := by
    intro input isInput
    obtain ⟨member, listed⟩ := List.mem_unattach.mp isInput
    exact ⟨member, interfaces ⟨input, member⟩ listed⟩
  have onceByName : (inputs.unattach.map (·.qualifiedName)).Nodup :=
    (once.map Subtype.val_injective).map_on fun first firstMember second secondMember same =>
      eq_of_qualifiedName (known first firstMember).1 (known second secondMember).1 same
  exact visit_of_interfaces repository known repository.distinct onceByName

theorem tasks_of_interfaces : repository.tasks inputs = inputs.unattach := by
  rw [tasks, dispatch_of_interfaces interfaces once, List.filter_eq_self]
  intro input isInput
  obtain ⟨member, listed⟩ := List.mem_unattach.mp isInput
  exact decide_eq_true (interfaces ⟨input, member⟩ listed)

theorem rejected_of_interfaces : repository.rejected inputs = [] := by
  rw [rejected, dispatch_of_interfaces interfaces once, List.filter_eq_nil_iff]
  intro input isInput isOther
  obtain ⟨member, listed⟩ := List.mem_unattach.mp isInput
  have isInterface : input.kind = .interface := interfaces ⟨input, member⟩ listed
  rw [decide_eq_true_eq, isInterface] at isOther
  cases isOther

end Interfaces

end Repository

/-! ### Tasks that take no name -/

namespace RoundPlan

/-- The result of a task depends on the names that are taken, and the task takes a name only if its
class is to be emitted. -/
theorem exists_claim_cons (claimed : List (String × String))
    (outcome : Declaration × Except GenerationError GeneratedClass) :
    ∃ result next, Settled outcome.1 outcome.2 result ∧
      ((∀ generated, result ≠ .toEmit outcome.1 generated) → next = claimed) ∧
        ∀ rest, claim claimed (outcome :: rest) = result :: claim next rest := by
  obtain ⟨task, error | generated⟩ := outcome
  · exact ⟨_, claimed, .failed error, fun _ => rfl, fun _ => rfl⟩
  · by_cases topLevel : generated.isTopLevel
    · cases found : claimed.lookup generated.name.qualified with
      | some first =>
        exact ⟨_, claimed, .taken generated first topLevel, fun _ => rfl,
          fun rest => claim_of_taken rest topLevel found⟩
      | none =>
        exact ⟨_, _, .toEmit generated topLevel, fun other => absurd rfl (other generated),
          fun rest => claim_of_free rest topLevel found⟩
    · exact ⟨_, claimed, .embedded generated topLevel, fun _ => rfl,
        fun rest => claim_of_nested rest topLevel⟩

/-- Without a task whose class is not to be emitted, the others have the same results. -/
theorem exists_claim_append (claimed : List (String × String))
    (before after : List (Declaration × Except GenerationError GeneratedClass))
    (outcome : Declaration × Except GenerationError GeneratedClass) :
    ∃ earlier result later, Settled outcome.1 outcome.2 result ∧
      claim claimed (before ++ outcome :: after) = earlier ++ result :: later ∧
        ((∀ generated, result ≠ .toEmit outcome.1 generated) →
          claim claimed (before ++ after) = earlier ++ later) := by
  induction before generalizing claimed with
  | nil =>
    obtain ⟨result, next, settled, same, step⟩ := exists_claim_cons claimed outcome
    exact ⟨[], result, _, settled, step after, fun other => by rw [same other]; rfl⟩
  | cons first rest inductionHypothesis =>
    obtain ⟨firstResult, next, _, _, step⟩ := exists_claim_cons claimed first
    obtain ⟨earlier, result, later, settled, whole, without⟩ := inductionHypothesis next
    refine ⟨firstResult :: earlier, result, later, settled, ?_, fun other => ?_⟩
    · rw [List.cons_append, step, whole, List.cons_append]
    · rw [List.cons_append, step, without other, List.cons_append]

end RoundPlan

/-! ### The entry of a task -/

/-- How the names of nested classes and the errors of a round differ from those without a task: its
entry, which is settled by what was put together for it, is missing there. -/
inductive LacksEntry (task : Declaration) (made : Except GenerationError GeneratedClass) :
    List GeneratedName × List ErrorReport → List GeneratedName × List ErrorReport → Prop
  | error (filtered : List GeneratedName) (earlier later : List ErrorReport)
    {error : GenerationError}
    (settled : RoundPlan.Settled task made (.failed ⟨task.qualifiedName, error⟩)) :
    LacksEntry task made (filtered, earlier ++ ⟨task.qualifiedName, error⟩ :: later)
      (filtered, earlier ++ later)
  | name (errors : List ErrorReport) (earlier later : List GeneratedName) {name : GeneratedName}
    (settled : RoundPlan.Settled task made (.embedded name)) :
    LacksEntry task made (earlier ++ name :: later, errors) (earlier ++ later, errors)

/-- Further errors are not the entry of the task. -/
theorem LacksEntry.append {task : Declaration} {made : Except GenerationError GeneratedClass}
    {filtered otherFiltered : List GeneratedName} {errors otherErrors : List ErrorReport}
    (lacks : LacksEntry task made (filtered, errors) (otherFiltered, otherErrors))
    (further : List ErrorReport) :
    LacksEntry task made (filtered, errors ++ further) (otherFiltered, otherErrors ++ further) := by
  cases lacks with
  | error _ earlier later settled =>
    rw [List.append_assoc, List.append_assoc, List.cons_append]
    exact .error _ _ _ settled
  | name _ earlier later settled => exact .name _ _ _ settled

namespace Decisions

/-- What is decided with a task and without it, where the task is not offered. -/
structure Without (task : Declaration) (made : Except GenerationError GeneratedClass)
    (decided fewer : Decisions) : Prop where
  offers : decided.offers = fewer.offers
  entry : LacksEntry task made (decided.filtered, decided.failures)
    (fewer.filtered, fewer.failures)

/-- Where two logs agree on the units that are offered, the reports differ as the decisions do. -/
theorem Without.report {task : Declaration} {made : Except GenerationError GeneratedClass}
    {decided fewer : Decisions} (without : Without task made decided fewer)
    {log otherLog : EmissionLog} {report otherReport : RoundReport}
    (told : decided.Tells log report) (otherTold : fewer.Tells otherLog otherReport)
    (agree : ∀ offer ∈ decided.offers, log.lookup offer.2 = otherLog.lookup offer.2) :
    report.emitted = otherReport.emitted ∧
      LacksEntry task made (report.filtered, report.errors)
        (otherReport.filtered, otherReport.errors) := by
  have accepted : decided.offers.filterMap (accepted? log) =
      fewer.offers.filterMap (accepted? otherLog) := by
    rw [← without.offers]
    exact List.filterMap_congr fun offer member => by rw [accepted?, accepted?, agree offer member]
  have refused : decided.offers.filterMap (refused? log) =
      fewer.offers.filterMap (refused? otherLog) := by
    rw [← without.offers]
    exact List.filterMap_congr fun offer member => by rw [refused?, refused?, agree offer member]
  rw [told.emitted, told.filtered, told.errors, otherTold.emitted, otherTold.filtered,
    otherTold.errors, accepted, refused]
  exact ⟨rfl, without.entry.append _⟩

end Decisions

namespace RoundPlan

variable {repository : Repository} {suffix : String} {before after : List repository.Member}
  {task : repository.Member}

/-- Where a result is no class that is to be emitted, what is decided without it lacks only its
entry. -/
theorem without_decisions {task : Declaration} {made : Except GenerationError GeneratedClass}
    {result : TaskResult} (settled : Settled task made result)
    (other : ∀ generated, result ≠ .toEmit task generated)
    (earlier later : List TaskResult) (options : RenderOptions) :
    Decisions.Without task made (decisions ⟨[], earlier ++ result :: later⟩ options)
      (decisions ⟨[], earlier ++ later⟩ options) := by
  constructor
  · simp only [decisions, classes, List.filterMap_append, List.filterMap_cons]
    cases settled with
    | failed _ => rfl
    | taken _ _ _ => rfl
    | embedded _ _ => rfl
    | toEmit generated _ => exact absurd rfl (other generated)
  · simp only [decisions, List.map_nil, List.nil_append, List.filterMap_append]
    cases settled with
    | failed error => exact .error _ _ _ (.failed error)
    | taken generated first topLevel => exact .error _ _ _ (.taken generated first topLevel)
    | embedded generated nested => exact .name _ _ _ (.embedded generated nested)
    | toEmit generated _ => exact absurd rfl (other generated)

/-- The results of a plan over distinct interfaces. -/
theorem make_of_interfaces {inputs : List repository.Member} (suffix : String)
    (interfaces : ∀ input ∈ inputs, input.val.kind = .interface) (once : inputs.Nodup) :
    make repository suffix inputs = ⟨[], claim [] (inputs.unattach.map fun task =>
      (task, ((Resolver.direct repository suffix).synthesize task).run))⟩ := by
  rw [make, Repository.rejected_of_interfaces interfaces once,
    Repository.tasks_of_interfaces interfaces once,
    synthesizeTasks_eq suffix inputs.unattach (repository.unattach_subset inputs)]

/-- A task that is not offered leaves no trace but its entry. -/
theorem without_make
    (interfaces : ∀ input ∈ before ++ task :: after, input.val.kind = .interface)
    (once : (before ++ task :: after).Nodup) (options : RenderOptions)
    (notOffered : ∀ offer ∈ ((make repository suffix (before ++ task :: after)).decisions
      options).offers, offer.1 ≠ task.val) :
    Decisions.Without task.val ((Resolver.direct repository suffix).synthesize task.val).run
      ((make repository suffix (before ++ task :: after)).decisions options)
      ((make repository suffix (before ++ after)).decisions options) := by
  have fewer : (before ++ after).Sublist (before ++ task :: after) :=
    (List.sublist_cons_self task after).append_left before
  have whole := make_of_interfaces suffix interfaces once
  have rest := make_of_interfaces suffix
    (fun input member => interfaces input (fewer.subset member)) (once.sublist fewer)
  rw [List.unattach_append, List.unattach_cons, List.map_append, List.map_cons] at whole
  rw [List.unattach_append, List.map_append] at rest
  obtain ⟨earlier, result, later, settled, same, without⟩ := exists_claim_append [] _ _ _
  rw [same] at whole
  have other (generated : GeneratedClass) : result ≠ .toEmit task.val generated := by
    rintro rfl
    refine notOffered (task.val, generated.render options) ?_ rfl
    have isClass :
        (task.val, generated) ∈ (make repository suffix (before ++ task :: after)).classes := by
      rw [mem_classes_iff, whole]
      exact List.mem_append_right _ List.mem_cons_self
    exact List.mem_map_of_mem isClass
  rw [whole, rest, without other]
  exact without_decisions settled other earlier later options

end RoundPlan

/-! ### Emitters that know the unit only -/

namespace Round

open RoundPlan

section ByUnit

variable {State : Type} {emit : Emitter (StateM State)}
  {answer : CompilationUnit → Except EmissionError Unit}
  (byUnit : ∀ unit state, ((emit unit).run state).1 = answer unit)

include byUnit

theorem answer_of_mem_offer {Place : Type} {unit : Place → CompilationUnit} (places : List Place)
    (state : State) :
    ∀ pair ∈ ((offer emit unit places).run state).1, answer (unit pair.1) = pair.2 := by
  induction places generalizing state with
  | nil => exact fun _ impossible => (by cases impossible)
  | cons place rest inductionHypothesis =>
    rw [run_offer_cons]
    exact List.forall_mem_cons.mpr ⟨(byUnit _ _).symm, inductionHypothesis _⟩

/-- What is logged is the answer to the unit. -/
theorem answer_of_mem_log (repository : Repository) (config : Config) (now : String)
    (inputs : List repository.Member) (state : State) (turns : Turns) :
    ∀ entry ∈ ((runInOrder repository config now inputs emit.logging turns).run
      (state, [])).2.2, answer entry.1 = entry.2 := by
  let plan := make repository config.suffix inputs
  let unit := fun place => (plan.classes.get place).2.render (options config now)
  let places := turns.places plan.classes.length
  have logged : ((runInOrder repository config now inputs emit.logging turns).run
      (state, [])).2.2 = [] ++ ((offer emit unit places).run state).1.map
        fun (place, answer) => (unit place, answer) :=
    congrArg (·.2.2) (run_offer_logging emit unit places state [])
  rw [logged, List.nil_append, List.forall_mem_map]
  exact answer_of_mem_offer byUnit places state

end ByUnit

/-- An answer that depends on the unit only is told by the log. -/
theorem lookup_of_mem_offers {decided : Decisions} {log : EmissionLog} {report : RoundReport}
    {answer : CompilationUnit → Except EmissionError Unit} (told : decided.Tells log report)
    (distinct : (decided.offers.map (·.2.name.qualified)).Nodup)
    (answered : ∀ entry ∈ log, answer entry.1 = entry.2) :
    ∀ offer ∈ decided.offers, log.lookup offer.2 = some (answer offer.2) := by
  intro offer member
  have units : (decided.offers.map Prod.snd).Nodup :=
    .of_map (·.name.qualified) (by rw [List.map_map]; exact distinct)
  have once : (log.map Prod.fst).Nodup := told.offered.nodup_iff.mpr units
  obtain ⟨entry, isLogged, same⟩ :=
    List.mem_map.mp (told.offered.mem_iff.mpr (List.mem_map_of_mem member))
  rw [← same, answered entry isLogged]
  exact Turns.lookup_eq_some_of_mem once isLogged

/-! ### A round without one of its tasks -/

/-- Where a task of distinct interfaces is not offered, since it has failed or its class is part of
another one, the round without it offers the same units, and its report lacks only the entry of the
task, if the emitter says to each unit what depends on the unit only. Where the date is emitted, the
time has to be the same. -/
theorem without_runInOrder {repository : Repository} {config : Config} {now otherNow : String}
    (sameTime : config.emitDate → otherNow = now) {before after : List repository.Member}
    {task : repository.Member}
    (interfaces : ∀ input ∈ before ++ task :: after, input.val.kind = .interface)
    (once : (before ++ task :: after).Nodup)
    (notOffered : ∀ offer ∈ (decisions repository config now (before ++ task :: after)).offers,
      offer.1 ≠ task.val)
    {State : Type} {emit : Emitter (StateM State)}
    {answer : CompilationUnit → Except EmissionError Unit}
    (byUnit : ∀ unit state, ((emit unit).run state).1 = answer unit)
    (state otherState : State) (turns otherTurns : Turns) :
    (((runInOrder repository config now (before ++ task :: after) emit.logging turns).run
          (state, [])).2.2.map Prod.fst).Perm
        (((runInOrder repository config otherNow (before ++ after) emit.logging otherTurns).run
          (otherState, [])).2.2.map Prod.fst) ∧
      let report :=
        ((runInOrder repository config now (before ++ task :: after) emit turns).run state).1
      let otherReport :=
        ((runInOrder repository config otherNow (before ++ after) emit otherTurns).run otherState).1
      report.emitted = otherReport.emitted ∧
        LacksEntry task.val
          ((Resolver.direct repository config.suffix).synthesize task.val).run
          (report.filtered, report.errors) (otherReport.filtered, otherReport.errors) := by
  rw [runInOrder_of_sameTime sameTime, runInOrder_of_sameTime sameTime]
  have without := without_make interfaces once (options config now) notOffered
  obtain ⟨log, logged, told⟩ :=
    tells_runInOrder repository config now (before ++ task :: after) emit state turns
  obtain ⟨otherLog, otherLogged, otherTold⟩ :=
    tells_runInOrder repository config now (before ++ after) emit otherState otherTurns
  have answered := answer_of_mem_log byUnit repository config now (before ++ task :: after) state
    turns
  have otherAnswered := answer_of_mem_log byUnit repository config now (before ++ after) otherState
    otherTurns
  rw [logged] at answered ⊢
  rw [otherLogged] at otherAnswered ⊢
  have same : (decisions repository config now (before ++ task :: after)).offers =
      (decisions repository config now (before ++ after)).offers := without.offers
  have found := lookup_of_mem_offers told (nodup_names_offers _ _ _ _) answered
  have otherFound := lookup_of_mem_offers otherTold (nodup_names_offers _ _ _ _) otherAnswered
  rw [← same] at otherFound
  refine ⟨?_, without.report told otherTold fun offer member => ?_⟩
  · exact told.offered.trans (same ▸ otherTold.offered.symm)
  · rw [found offer member, otherFound offer member]

/-- What the memory says to a unit depends on the unit only. -/
theorem run_inMemory_fst (unit : CompilationUnit) (units : List CompilationUnit) :
    ((Emitter.inMemory unit).run units).1 =
      if unit.name.isTopLevel then .ok () else .error (.notTopLevel unit.name.qualified) := by
  unfold Emitter.inMemory Emitter.topLevelOnly
  split <;> rfl

/-- The interface with a type that cannot be read. -/
def brokenTask : Declaration :=
  ((Declaration.interface "pkg" "Broken").withMarker .plain).withAccessor ⟨"key", "?"⟩

/-- The interfaces of the repository, with the one that cannot be read between the others. -/
theorem without_runInOrder_broken :
    let before := clashingRepository.declarations.attach.take 2
    let task : clashingRepository.Member := ⟨brokenTask, by decide⟩
    let after := clashingRepository.declarations.attach.drop 4
    (∀ input ∈ before ++ task :: after, input.val.kind = .interface) ∧
      (before ++ task :: after).Nodup ∧
      (∀ offer ∈ (decisions clashingRepository .default "" (before ++ task :: after)).offers,
        offer.1 ≠ brokenTask) ∧
      let report := ((runInOrder clashingRepository .default "" (before ++ task :: after)
        Emitter.inMemory .backwards).run []).1
      let otherReport := ((runInOrder clashingRepository .default "later" (before ++ after)
        Emitter.inMemory .inOrder).run []).1
      report.emitted = otherReport.emitted ∧
        LacksEntry brokenTask
          ((Resolver.direct clashingRepository "POJO").synthesize brokenTask).run
          (report.filtered, report.errors) (otherReport.filtered, otherReport.errors) := by
  intro before task after
  have interfaces : ∀ input ∈ before ++ task :: after, input.val.kind = .interface := by
    decide +kernel
  have once : (before ++ task :: after).Nodup := by
    decide +kernel
  have notOffered : ∀ offer ∈ (decisions clashingRepository .default ""
      (before ++ task :: after)).offers, offer.1 ≠ brokenTask := by
    decide +kernel
  have undated : Config.default.emitDate → "later" = "" := fun dated => by cases dated
  have without := without_runInOrder undated interfaces once notOffered run_inMemory_fst [] []
    .backwards .inOrder
  exact ⟨interfaces, once, notOffered, without.2⟩

end Round

end ValueGen
