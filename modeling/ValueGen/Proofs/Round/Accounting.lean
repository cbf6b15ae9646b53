/-
This file accounts for all that a round deals with. Each task stands for one entry of the report:
its error, its nested class, or an offer to the emitter with the answer to it. Of the tasks with
one name for their outermost classes the first offers its class, whatever the emitter says, and
the later ones fail because of it. The rejected declarations and the entries make up the report,
list by list and in the order of the walk.
-/

import ValueGen.Proofs.Round.Coverage

namespace ValueGen

/-! ### What an emitter is offered -/

/-- The units that an emitter has been offered, in order, with its answers. -/
abbrev EmissionLog := List (CompilationUnit × Except EmissionError Unit)

/-- Keeps a log of what an emitter is offered. -/
def Emitter.logging {State : Type} (emit : Emitter (StateM State)) :
    Emitter (StateM (State × EmissionLog)) := fun unit (state, log) =>
  let (answer, next) := (emit unit).run state
  (answer, (next, log ++ [(unit, answer)]))

namespace RoundPlan

/-! ### The first claimant of a name -/

/-- Whether a task claims a name: an outermost class with that name is put together for it. -/
def claims (repository : Repository) (suffix name : String) (task : Declaration) : Bool :=
  match ((Resolver.direct repository suffix).synthesize task).run with
  | .ok generated => generated.isTopLevel && generated.name.qualified = name
  | .error _ => false

/-- The first of some tasks that claims a name. -/
def claimant? (repository : Repository) (suffix : String) (tasks : List Declaration)
    (name : String) : Option Declaration :=
  tasks.find? (claims repository suffix name)

section Claimants

variable {repository : Repository} {suffix : String} {task : Declaration}

theorem claims_of_error {error : GenerationError}
    (fails : ((Resolver.direct repository suffix).synthesize task).run = .error error)
    (name : String) : claims repository suffix name task = false := by
  rw [claims, fails]

theorem claims_of_nested {generated : GeneratedClass}
    (made : ((Resolver.direct repository suffix).synthesize task).run = .ok generated)
    (nested : ¬ generated.isTopLevel) (name : String) :
    claims repository suffix name task = false := by
  rw [claims, made]
  exact Bool.and_eq_false_imp.mpr fun topLevel => absurd topLevel nested

theorem claims_of_topLevel {generated : GeneratedClass}
    (made : ((Resolver.direct repository suffix).synthesize task).run = .ok generated)
    (topLevel : generated.isTopLevel) (name : String) :
    claims repository suffix name task = decide (generated.name.qualified = name) := by
  rw [claims, made]
  exact (congrArg (· && _) topLevel).trans (Bool.true_and _)

theorem claimant?_append (earlier later : List Declaration) (name : String) :
    claimant? repository suffix (earlier ++ later) name =
      (claimant? repository suffix earlier name).or (claimant? repository suffix later name) :=
  List.find?_append

/-- A claimed name stays with its claimant. -/
theorem claimant?_append_of_some {earlier : List Declaration} {name : String}
    {first : Declaration} (claimed : claimant? repository suffix earlier name = some first)
    (later : List Declaration) :
    claimant? repository suffix (earlier ++ later) name = some first := by
  rw [claimant?_append, claimed, Option.some_or]

/-- The claimant of a name after one more task. -/
theorem claimant?_concat (earlier : List Declaration) (task : Declaration) (name : String) :
    claimant? repository suffix (earlier ++ [task]) name =
      (claimant? repository suffix earlier name).or
        (if claims repository suffix name task then some task else none) := by
  rw [claimant?_append, claimant?, claimant?, List.find?_singleton]

end Claimants

/-! ### The entries of the tasks -/

/-- What a report holds of a task. -/
inductive Entry
  /-- Nothing could be emitted. -/
  | failed (report : ErrorReport)
  /-- The class is nested in another one. -/
  | filtered (name : GeneratedName)
  /-- The class was offered to the emitter, which gave an answer. -/
  | offered (task : Declaration) (generated : GeneratedClass)
    (answer : Except EmissionError Unit)

namespace Entry

/-- The class that was offered, with its task and the answer. -/
def offer? : Entry → Option ((Declaration × GeneratedClass) × Except EmissionError Unit)
  | .offered task generated answer => some ((task, generated), answer)
  | _ => none

/-- The name of the class that the emitter took. -/
def emitted? : Entry → Option GeneratedName
  | .offered _ generated (.ok ()) => some generated.name
  | _ => none

/-- The name of the nested class. -/
def filtered? : Entry → Option GeneratedName
  | .filtered name => some name
  | _ => none

/-- The report on a task with nothing to emit. -/
def failure? : Entry → Option ErrorReport
  | .failed report => some report
  | _ => none

/-- The report on a task whose class the emitter refused. -/
def refusal? : Entry → Option ErrorReport
  | .offered task _ (.error cause) => some ⟨task.qualifiedName, .emission cause⟩
  | _ => none

end Entry

/-- The entries for some results, given the answers to the classes that are to be emitted. -/
def entries : List TaskResult → List (Except EmissionError Unit) → List Entry
  | .failed report :: rest, answers => .failed report :: entries rest answers
  | .embedded name :: rest, answers => .filtered name :: entries rest answers
  | .toEmit task generated :: rest, answer :: answers =>
    .offered task generated answer :: entries rest answers
  | .toEmit _ _ :: _, [] => []
  | [], _ => []

/-- The entry of one of the tasks of a round is the right one. -/
inductive Accounted (repository : Repository) (suffix : String) (tasks : List Declaration)
    (task : Declaration) : Entry → Prop
  /-- What kept the class from being put together is the error. -/
  | failed {error : GenerationError}
    (fails : ((Resolver.direct repository suffix).synthesize task).run = .error error) :
    Accounted repository suffix tasks task (.failed ⟨task.qualifiedName, error⟩)
  /-- A nested class is not emitted on its own. -/
  | filtered {generated : GeneratedClass}
    (made : ((Resolver.direct repository suffix).synthesize task).run = .ok generated)
    (nested : ¬ generated.isTopLevel) :
    Accounted repository suffix tasks task (.filtered generated.name)
  /-- Another task is the first to claim the name. -/
  | taken {generated : GeneratedClass} {first : Declaration}
    (made : ((Resolver.direct repository suffix).synthesize task).run = .ok generated)
    (topLevel : generated.isTopLevel)
    (claimed : claimant? repository suffix tasks generated.name.qualified = some first)
    (other : first ≠ task) :
    Accounted repository suffix tasks task (.failed ⟨task.qualifiedName,
      .nameCollision generated.name.qualified first.qualifiedName⟩)
  /-- The task itself is the first to claim the name, and its class is offered. -/
  | offered {generated : GeneratedClass}
    (made : ((Resolver.direct repository suffix).synthesize task).run = .ok generated)
    (topLevel : generated.isTopLevel)
    (claimed : claimant? repository suffix tasks generated.name.qualified = some task)
    (answer : Except EmissionError Unit) :
    Accounted repository suffix tasks task (.offered task generated answer)

/-- The names that are taken are those that earlier tasks claim, each by the first of them. -/
def Taken (repository : Repository) (suffix : String) (earlier : List Declaration)
    (claimed : List (String × String)) : Prop :=
  ∀ name, claimed.lookup name =
    (claimant? repository suffix earlier name).map (·.qualifiedName)

namespace Taken

variable {repository : Repository} {suffix : String} {earlier : List Declaration}
  {claimed : List (String × String)}

/-- A task that claims no name, or only names that are taken, takes none. -/
theorem pass (taken : Taken repository suffix earlier claimed) (task : Declaration)
    (idle : ∀ name, claims repository suffix name task →
      (claimant? repository suffix earlier name).isSome) :
    Taken repository suffix (earlier ++ [task]) claimed := by
  intro name
  rw [taken name, claimant?_concat]
  by_cases claiming : claims repository suffix name task
  · rw [Option.or_of_isSome (idle name claiming)]
  · rw [if_neg claiming, Option.or_none]

/-- A task takes the name that it is the first to claim. -/
theorem take (taken : Taken repository suffix earlier claimed) {task : Declaration}
    {generated : GeneratedClass}
    (made : ((Resolver.direct repository suffix).synthesize task).run = .ok generated)
    (topLevel : generated.isTopLevel)
    (free : claimant? repository suffix earlier generated.name.qualified = none) :
    Taken repository suffix (earlier ++ [task])
      ((generated.name.qualified, task.qualifiedName) :: claimed) := by
  intro name
  rw [List.lookup_cons, taken name, claimant?_concat, claims_of_topLevel made topLevel]
  by_cases same : generated.name.qualified = name
  · subst same
    rw [beq_self_eq_true, free, if_pos (decide_eq_true rfl)]
    rfl
  · rw [beq_false_of_ne (Ne.symm same), decide_eq_false same, if_neg Bool.false_ne_true,
      Option.or_none]

end Taken

section Claim

variable {claimed : List (String × String)} {task : Declaration} {generated : GeneratedClass}
  (rest : List (Declaration × Except GenerationError GeneratedClass))

theorem claim_of_nested (nested : ¬ generated.isTopLevel) :
    claim claimed ((task, .ok generated) :: rest) =
      .embedded generated.name :: claim claimed rest := by
  rw [claim, if_neg nested]

theorem claim_of_taken {first : String} (topLevel : generated.isTopLevel)
    (found : claimed.lookup generated.name.qualified = some first) :
    claim claimed ((task, .ok generated) :: rest) =
      .failed ⟨task.qualifiedName, .nameCollision generated.name.qualified first⟩ ::
        claim claimed rest := by
  rw [claim, if_pos topLevel]
  simp only [found]

theorem claim_of_free (topLevel : generated.isTopLevel)
    (free : claimed.lookup generated.name.qualified = none) :
    claim claimed ((task, .ok generated) :: rest) = .toEmit task generated ::
      claim ((generated.name.qualified, task.qualifiedName) :: claimed) rest := by
  rw [claim, if_pos topLevel]
  simp only [free]

end Claim

/-- Where the names that are taken are those that earlier tasks claim, what is told of the later
tasks is right, whatever answers the emitter will give. -/
theorem accounted_claim {repository : Repository} {suffix : String}
    (later earlier : List Declaration) (once : (earlier ++ later).Nodup)
    (claimed : List (String × String)) (taken : Taken repository suffix earlier claimed)
    (answers : List (Except EmissionError Unit))
    (answered : answers.length = (classes ⟨[], claim claimed (later.map fun task =>
      (task, ((Resolver.direct repository suffix).synthesize task).run))⟩).length) :
    List.Forall₂ (Accounted repository suffix (earlier ++ later)) later
      (entries (claim claimed (later.map fun task =>
        (task, ((Resolver.direct repository suffix).synthesize task).run))) answers) := by
  induction later generalizing earlier claimed answers with
  | nil => exact .nil
  | cons task rest inductionHypothesis =>
    have fresh : task ∉ earlier := fun again =>
      (List.nodup_append.mp once).2.2 task again task List.mem_cons_self rfl
    rw [List.append_cons] at once ⊢
    rw [List.map_cons] at answered ⊢
    cases made : ((Resolver.direct repository suffix).synthesize task).run with
    | error error =>
      have passed := taken.pass task fun name claiming => by
        rw [claims_of_error made] at claiming
        cases claiming
      rw [made, claim] at answered
      exact .cons (.failed made) (inductionHypothesis _ once claimed passed answers answered)
    | ok generated =>
      rw [made] at answered
      by_cases topLevel : generated.isTopLevel
      · have before := taken generated.name.qualified
        cases found : claimant? repository suffix earlier generated.name.qualified with
        | some first =>
          rw [found, Option.map_some] at before
          have passed := taken.pass task fun name claiming => by
            rw [claims_of_topLevel made topLevel, decide_eq_true_eq] at claiming
            rw [← claiming, found, Option.isSome_some]
          have claimant := claimant?_append_of_some found ([task] ++ rest)
          rw [← List.append_assoc] at claimant
          have other : first ≠ task := fun same =>
            fresh (same ▸ List.mem_of_find?_eq_some found)
          rw [claim_of_taken _ topLevel before] at answered ⊢
          exact .cons (.taken made topLevel claimant other)
            (inductionHypothesis _ once claimed passed answers answered)
        | none =>
          rw [found, Option.map_none] at before
          have claimant : claimant? repository suffix (earlier ++ [task])
              generated.name.qualified = some task := by
            rw [claimant?_concat, found, claims_of_topLevel made topLevel,
              if_pos (decide_eq_true rfl), Option.none_or]
          rw [claim_of_free _ topLevel before] at answered ⊢
          cases answers with
          | nil => cases answered
          | cons answer answers =>
            exact .cons (.offered made topLevel (claimant?_append_of_some claimant rest) answer)
              (inductionHypothesis _ once _ (taken.take made topLevel found) answers
                (Nat.succ.inj answered))
      · have passed := taken.pass task fun name claiming => by
          rw [claims_of_nested made topLevel] at claiming
          cases claiming
        rw [claim_of_nested _ topLevel] at answered ⊢
        exact .cons (.filtered made topLevel)
          (inductionHypothesis _ once claimed passed answers answered)

/-! ### The report -/

/-- The entries tell what the plan holds and what the emitter has answered. -/
theorem filterMap_entries (rejected : List Declaration) (results : List TaskResult)
    (answers : List (Except EmissionError Unit))
    (answered : answers.length = (classes ⟨rejected, results⟩).length) :
    (classes ⟨rejected, results⟩).zip answers =
        (entries results answers).filterMap Entry.offer? ∧
      (results.filterMap fun
        | .embedded name => some name
        | _ => none) = (entries results answers).filterMap Entry.filtered? ∧
      (results.filterMap fun
        | .failed report => some report
        | _ => none) = (entries results answers).filterMap Entry.failure? := by
  induction results generalizing answers with
  | nil => exact ⟨rfl, rfl, rfl⟩
  | cons result rest inductionHypothesis =>
    cases result with
    | failed report =>
      obtain ⟨offers, filtered, failures⟩ := inductionHypothesis answers answered
      exact ⟨offers, filtered, congrArg (List.cons report) failures⟩
    | embedded name =>
      obtain ⟨offers, filtered, failures⟩ := inductionHypothesis answers answered
      exact ⟨offers, congrArg (List.cons name) filtered, failures⟩
    | toEmit task generated =>
      cases answers with
      | nil => cases answered
      | cons answer answers =>
        obtain ⟨offers, filtered, failures⟩ :=
          inductionHypothesis answers (Nat.succ.inj answered)
        exact ⟨congrArg (List.cons ((task, generated), answer)) offers, filtered, failures⟩

section Report

variable (plan : RoundPlan) (answers : List (Except EmissionError Unit))
  (answered : answers.length = plan.classes.length)

include answered

theorem emitted_report :
    (plan.report answers).emitted = (entries plan.results answers).filterMap Entry.emitted? := by
  have offers := (filterMap_entries plan.rejected plan.results answers answered).1
  refine (congrArg (List.filterMap _) offers).trans ?_
  rw [List.filterMap_filterMap]
  congr 1
  funext entry
  rcases entry with _ | _ | ⟨_, _, _ | _⟩ <;> rfl

theorem filtered_report :
    (plan.report answers).filtered = (entries plan.results answers).filterMap Entry.filtered? :=
  (filterMap_entries plan.rejected plan.results answers answered).2.1

theorem errors_report_eq :
    (plan.report answers).errors =
      plan.rejected.map (fun declaration => ⟨declaration.qualifiedName, .notAnInterface⟩) ++
        (entries plan.results answers).filterMap Entry.failure? ++
          (entries plan.results answers).filterMap Entry.refusal? := by
  obtain ⟨offers, _, failures⟩ := filterMap_entries plan.rejected plan.results answers answered
  refine congrArg₂ (· ++ ·) (congrArg (_ ++ ·) failures) ?_
  rw [offers, List.filterMap_filterMap]
  congr 1
  funext entry
  rcases entry with _ | _ | ⟨_, _, _ | _⟩ <;> rfl

end Report

/-- Each entry stands in exactly one list of the report. -/
theorem length_eq_sum (entries : List Entry) :
    entries.length = (entries.filterMap Entry.emitted?).length +
      (entries.filterMap Entry.filtered?).length + (entries.filterMap Entry.failure?).length +
        (entries.filterMap Entry.refusal?).length := by
  induction entries with
  | nil => rfl
  | cons entry rest inductionHypothesis =>
    rcases entry with _ | _ | ⟨_, _, _ | _⟩ <;>
      simp only [List.filterMap_cons, Entry.emitted?, Entry.filtered?, Entry.failure?,
        Entry.refusal?, List.length_cons] <;> omega

/-- The first claimants have distinct names for their classes. -/
theorem nodup_offered {repository : Repository} {suffix : String} {all tasks : List Declaration}
    {entries : List Entry}
    (sideBySide : List.Forall₂ (Accounted repository suffix all) tasks entries)
    (once : tasks.Nodup) :
    (entries.filterMap fun entry =>
      entry.offer?.map fun ((_, generated), _) => generated.name.qualified).Nodup := by
  induction sideBySide with
  | nil => exact List.nodup_nil
  | @cons task entry tasks entries here later inductionHypothesis =>
    obtain ⟨alone, once⟩ := List.nodup_cons.mp once
    cases here with
    | failed _ => exact inductionHypothesis once
    | filtered _ _ => exact inductionHypothesis once
    | taken _ _ _ _ => exact inductionHypothesis once
    | @offered generated _ _ claimed answer =>
      refine List.nodup_cons.mpr ⟨fun again => ?_, inductionHypothesis once⟩
      obtain ⟨other, member, same⟩ := List.mem_filterMap.mp again
      obtain ⟨otherTask, isLater, there⟩ := exists_mem_of_mem_right later member
      cases there with
      | failed _ => cases same
      | filtered _ _ => cases same
      | taken _ _ _ _ => cases same
      | @offered otherGenerated _ _ otherClaimed _ =>
        -- both tasks are the first to claim the one name
        have named : otherGenerated.name.qualified = generated.name.qualified :=
          Option.some.inj same
        rw [named] at otherClaimed
        exact alone (Option.some.inj (claimed.symm.trans otherClaimed) ▸ isLater)

/-! ### The plan of a round -/

section Make

variable (repository : Repository) (suffix : String) (inputs : List repository.Member)

/-- The entries of a round are the right ones for its tasks, one by one, whatever the answers. -/
theorem accounted_make (answers : List (Except EmissionError Unit))
    (answered : answers.length = (make repository suffix inputs).classes.length) :
    List.Forall₂ (Accounted repository suffix (repository.tasks inputs)) (repository.tasks inputs)
      (entries (make repository suffix inputs).results answers) := by
  have known : ∀ task ∈ repository.tasks inputs, task ∈ repository.declarations :=
    fun _ member => Repository.mem_of_mem_dispatch ((Repository.mem_tasks_iff _ _ _).mp member).1
  rw [make, synthesizeTasks_eq suffix _ known] at answered ⊢
  exact accounted_claim (repository.tasks inputs) [] (Round.nodup_tasks repository inputs) []
    (fun _ => rfl) answers answered

/-- The classes that are to be emitted have distinct names. -/
theorem nodup_names_classes :
    ((make repository suffix inputs).classes.map fun (_, generated) =>
      generated.name.qualified).Nodup := by
  have answered := List.length_replicate (n := (make repository suffix inputs).classes.length)
    (a := (Except.ok () : Except EmissionError Unit))
  have offers := (filterMap_entries (make repository suffix inputs).rejected
    (make repository suffix inputs).results _ answered).1
  have distinct := nodup_offered (accounted_make repository suffix inputs _ answered)
    (Round.nodup_tasks repository inputs)
  rw [← List.map_filterMap, ← offers] at distinct
  rw [← List.map_fst_zip (Nat.le_of_eq answered.symm), List.map_map]
  exact distinct

end Make

end RoundPlan

/-! ### The whole round -/

namespace Round

open Repository RoundPlan

variable {State : Type}

/-- The log of an emitter holds what it is offered, with its answers, which are the same without a
log. -/
theorem run_mapM_logging {Item : Type} (emit : Emitter (StateM State))
    (unit : Item → CompilationUnit) (items : List Item) (state : State) (log : EmissionLog) :
    (items.mapM fun item => emit.logging (unit item)).run (state, log) =
      let (answers, last) := (items.mapM fun item => emit (unit item)).run state
      (answers, last, log ++ (items.zip answers).map fun (item, answer) =>
        (unit item, answer)) := by
  induction items generalizing state log with
  | nil => exact congrArg (fun log => ([], state, log)) (List.append_nil log).symm
  | cons item rest inductionHypothesis =>
    rw [List.mapM_cons, List.mapM_cons]
    have step := inductionHypothesis ((emit (unit item)).run state).2
      (log ++ [(unit item, ((emit (unit item)).run state).1)])
    refine (congrArg (fun outcome =>
      (((emit (unit item)).run state).1 :: outcome.1, outcome.2)) step).trans ?_
    exact congrArg (fun log => (_, _, log)) (List.append_assoc _ _ _)

/-- A round under a log is the round without it, and the log holds the classes of the plan with the
answers to them. -/
theorem run_runWith_logging (repository : Repository) (config : Config) (now : String)
    (inputs : List repository.Member) (emit : Emitter (StateM State)) (state : State) :
    ∃ answers : List (Except EmissionError Unit),
      answers.length = (make repository config.suffix inputs).classes.length ∧
        ((runWith repository config now inputs emit).run state).1 =
          (make repository config.suffix inputs).report answers ∧
        (runWith repository config now inputs emit.logging).run (state, []) =
          (((runWith repository config now inputs emit).run state).1,
            ((runWith repository config now inputs emit).run state).2,
            ((make repository config.suffix inputs).classes.zip answers).map
              fun ((_, generated), answer) => (generated.render (options config now), answer)) := by
  let plan := make repository config.suffix inputs
  let unit := fun item : Declaration × GeneratedClass => item.2.render (options config now)
  have logged := congrArg
    (fun outcome : List (Except EmissionError Unit) × State × EmissionLog =>
      (plan.report outcome.1, outcome.2)) (run_mapM_logging emit unit plan.classes state [])
  exact ⟨_, length_answers emit (·.render (options config now)) plan.classes state, rfl, logged⟩

/-- The units that an emitter is offered in a round are those of the classes of the plan. -/
theorem map_fst_logging (repository : Repository) (config : Config) (now : String)
    (inputs : List repository.Member) (emit : Emitter (StateM State)) (state : State) :
    ((runWith repository config now inputs emit.logging).run (state, [])).2.2.map Prod.fst =
      (make repository config.suffix inputs).classes.map fun (_, generated) =>
        generated.render (options config now) := by
  obtain ⟨answers, answered, _, logged⟩ :=
    run_runWith_logging repository config now inputs emit state
  rw [logged, List.map_map]
  have firsts := List.map_fst_zip (Nat.le_of_eq answered.symm)
  refine Eq.trans ?_ (congrArg (List.map _) firsts)
  rw [List.map_map]
  rfl

/-- What a round makes of the declarations that it deals with: what its emitter is offered and what
the report holds. -/
structure Accounts (repository : Repository) (suffix : String) (inputs : List repository.Member)
    (render : GeneratedClass → CompilationUnit) (log : EmissionLog) (report : RoundReport) :
    Prop where
  /-- The round comes to no declaration twice. -/
  once : (repository.dispatch inputs).Nodup
  /-- Each task has one entry, which is the right one. The entries make up what the emitter is
  offered and, after the rejected declarations, what the report holds, all in the order of the
  tasks. -/
  entries : ∃ entries : List Entry,
    List.Forall₂ (Accounted repository suffix (repository.tasks inputs)) (repository.tasks inputs)
        entries ∧
      log = (entries.filterMap Entry.offer?).map
        (fun ((_, generated), answer) => (render generated, answer)) ∧
      report.emitted = entries.filterMap Entry.emitted? ∧
      report.filtered = entries.filterMap Entry.filtered? ∧
      report.errors = rejections repository inputs ++ entries.filterMap Entry.failure? ++
        entries.filterMap Entry.refusal?
  /-- The report holds as many entries as there are tasks and rejected declarations. -/
  attempted : report.attempted =
    (repository.tasks inputs).length + (repository.rejected inputs).length
  /-- The names of the emitted classes are distinct. -/
  distinct : (report.emitted.map (·.qualified)).Nodup

/-- The names of the emitted classes are among those of the classes that were offered. -/
theorem sublist_emitted (entries : List Entry) :
    ((entries.filterMap Entry.emitted?).map (·.qualified)).Sublist
      (entries.filterMap fun entry =>
        entry.offer?.map fun ((_, generated), _) => generated.name.qualified) := by
  induction entries with
  | nil => exact .slnil
  | cons entry rest inductionHypothesis =>
    rcases entry with _ | _ | ⟨_, generated, _ | _⟩
    · exact inductionHypothesis
    · exact inductionHypothesis
    · exact inductionHypothesis.cons _
    · exact inductionHypothesis.cons_cons _

/-- Whatever the answers to its classes are, a plan accounts for all that the round deals with. -/
theorem accounts_report (repository : Repository) (suffix : String)
    (inputs : List repository.Member)
    (render : GeneratedClass → CompilationUnit) (answers : List (Except EmissionError Unit))
    (answered : answers.length = (make repository suffix inputs).classes.length) :
    Accounts repository suffix inputs render
      (((make repository suffix inputs).classes.zip answers).map
        fun ((_, generated), answer) => (render generated, answer))
      ((make repository suffix inputs).report answers) := by
  have accounted := accounted_make repository suffix inputs answers answered
  have offers := (filterMap_entries (make repository suffix inputs).rejected
    (make repository suffix inputs).results answers answered).1
  have emitted := emitted_report _ answers answered
  have filtered := filtered_report _ answers answered
  have errors := errors_report_eq _ answers answered
  refine ⟨nodup_dispatch _ _, ⟨_, accounted, congrArg _ offers, emitted, filtered, errors⟩,
    ?_, ?_⟩
  · have counted := accounted.length_eq.trans (length_eq_sum _)
    have rejected : (make repository suffix inputs).rejected = repository.rejected inputs := rfl
    rw [RoundReport.attempted, emitted, filtered, errors, List.length_append, List.length_append,
      List.length_map, rejected]
    omega
  · rw [emitted]
    exact (nodup_offered accounted (nodup_tasks repository inputs)).sublist (sublist_emitted _)

/-- A round accounts for all that it deals with, whatever its emitter does. What the emitter is
offered is told by a log, which changes nothing else. -/
theorem accounts_runWith (repository : Repository) (config : Config) (now : String)
    (inputs : List repository.Member) (emit : Emitter (StateM State)) (state : State) :
    ∃ log : EmissionLog,
      (runWith repository config now inputs emit.logging).run (state, []) =
          (((runWith repository config now inputs emit).run state).1,
            ((runWith repository config now inputs emit).run state).2, log) ∧
        Accounts repository config.suffix inputs (·.render (options config now)) log
          ((runWith repository config now inputs emit).run state).1 := by
  obtain ⟨answers, answered, told, logged⟩ :=
    run_runWith_logging repository config now inputs emit state
  refine ⟨_, logged, ?_⟩
  rw [told]
  exact accounts_report repository config.suffix inputs _ answers answered

/-- Two marked interfaces whose classes have one name, between them a marked one nested in the
first, one with a type that cannot be read, and a marked class. -/
def clashingRepository : Repository :=
  let user := (Declaration.interface "pkg" "UserPOJO").withMarker .plain
  let address := ((Declaration.interface "pkg" "Address").nestIn user).withMarker .plain
  let broken := ((Declaration.interface "pkg" "Broken").withMarker .plain).withAccessor
    ⟨"key", "?"⟩
  let kind := (Declaration.new "pkg" "Kind" .other).withMarker .plain
  let account := (Declaration.interface "pkg" "Account").withMarker ⟨some "User"⟩
  ⟨[user, address, broken, kind, account], by decide⟩

/-- The first claimant keeps its name also where the emitter refuses its class. -/
example : ((run clashingRepository .default ""
    (Emitter.inMemory.refusing ["pkg.User"] .notFound)).run []).1 =
      ⟨[], [⟨"pkg", "User", ["Address"]⟩],
        [⟨"pkg.Kind", .notAnInterface⟩,
          ⟨"pkg.Broken", .invalidType "pkg.Broken#key" (.unexpected "?" 0 "?")⟩,
          ⟨"pkg.Account", .nameCollision "pkg.User" "pkg.UserPOJO"⟩,
          ⟨"pkg.UserPOJO", .emission (.unwritable "pkg/User.java" .notFound)⟩]⟩ := by
  decide +kernel

end Round

end ValueGen
