/-
This file runs rounds in which the classes of the plan take turns in any order, as they do where
several workers offer them to one emitter; each answer goes back to the class that it belongs to.
What is offered and what fails before is decided by then. So whatever the emitter and the order
are, the emitter gets each of the decided units once, and the report follows the order of the plan.
-/

import Mathlib.Data.List.FinRange
import ValueGen.Proofs.Round.Accounting

namespace ValueGen

/-! ### Turns -/

/-- An order in which any number of places take turns, each of them once. -/
structure Turns where
  places : (count : Nat) → List (Fin count)
  each : ∀ count, (places count).Perm (List.finRange count)

namespace Turns

/-- One place after the other. -/
def inOrder : Turns := ⟨List.finRange, fun _ => .refl _⟩

/-- The last place comes first. -/
def backwards : Turns := ⟨fun count => (List.finRange count).reverse, fun _ => List.reverse_perm _⟩

variable {Answer : Type} {count : Nat}

/-- The answers in the order of their places. -/
def arrange (turned : List (Fin count × Answer)) : List Answer :=
  (List.finRange count).filterMap fun place => turned.lookup place

/-- Where no key comes twice, each pair can be looked up. -/
theorem lookup_eq_some_of_mem {Key Value : Type} [BEq Key] [LawfulBEq Key]
    {pairs : List (Key × Value)} (distinct : (pairs.map Prod.fst).Nodup) {key : Key}
    {value : Value} (member : (key, value) ∈ pairs) : pairs.lookup key = some value := by
  obtain ⟨before, after, rfl⟩ := List.append_of_mem member
  refine List.lookup_eq_some_iff.mpr ⟨before, after, rfl, fun other earlier => bne_iff_ne.mpr ?_⟩
  rw [List.map_append, List.map_cons] at distinct
  rintro rfl
  exact List.disjoint_of_nodup_append distinct (List.mem_map_of_mem earlier) List.mem_cons_self

variable {turned : List (Fin count × Answer)}

theorem arrange_eq {answerAt : Fin count → Answer}
    (isAnswer : ∀ place, turned.lookup place = some (answerAt place)) :
    arrange turned = (List.finRange count).map answerAt := by
  rw [arrange, ← List.filterMap_eq_map]
  exact List.filterMap_congr fun place _ => isAnswer place

/-- Where each place has taken its turn, each has an answer. -/
theorem exists_answer (taken : (turned.map Prod.fst).Perm (List.finRange count)) :
    ∃ answerAt : Fin count → Answer,
      (∀ place, turned.lookup place = some (answerAt place)) ∧
        turned = (turned.map Prod.fst).map fun place => (place, answerAt place) := by
  have distinct : (turned.map Prod.fst).Nodup := taken.nodup_iff.mpr (List.nodup_finRange count)
  have found (place : Fin count) : ∃ answer, turned.lookup place = some answer := by
    obtain ⟨⟨_, answer⟩, member, rfl⟩ :=
      List.mem_map.mp (taken.mem_iff.mpr (List.mem_finRange place))
    exact ⟨answer, lookup_eq_some_of_mem distinct member⟩
  choose answerAt isAnswer using found
  refine ⟨answerAt, isAnswer, ?_⟩
  rw [List.map_map]
  refine (List.map_id'' (fun _ => rfl) turned).symm.trans (List.map_congr_left ?_)
  intro (place, answer) member
  have same := (isAnswer place).symm.trans (lookup_eq_some_of_mem distinct member)
  exact congrArg (Prod.mk place) (Option.some.inj same).symm

/-- Arranging the answers keeps each of them with its place. -/
theorem perm_zip_arrange (taken : (turned.map Prod.fst).Perm (List.finRange count)) :
    (arrange turned).length = count ∧
      turned.Perm ((List.finRange count).zip (arrange turned)) := by
  obtain ⟨answerAt, isAnswer, told⟩ := exists_answer taken
  rw [arrange_eq isAnswer]
  constructor
  · rw [List.length_map, List.length_finRange]
  · have paired := @List.zip_map' _ _ _ id answerAt (List.finRange count)
    rw [List.map_id] at paired
    rw [paired, told]
    exact taken.map _

/-- Answers that come in the order of their places stay in it. -/
theorem arrange_zip {answers : List Answer} (answered : answers.length = count) :
    arrange ((List.finRange count).zip answers) = answers := by
  have firsts : ((List.finRange count).zip answers).map Prod.fst = List.finRange count :=
    List.map_fst_zip (by rw [List.length_finRange, answered])
  have seconds : ((List.finRange count).zip answers).map Prod.snd = answers :=
    List.map_snd_zip (by rw [List.length_finRange, answered])
  obtain ⟨answerAt, isAnswer, told⟩ := exists_answer (.of_eq firsts)
  rw [arrange_eq isAnswer]
  rw [firsts] at told
  have same := congrArg (List.map Prod.snd) told
  rw [seconds, List.map_map] at same
  exact same.symm

end Turns

/-! ### Rounds in any order -/

namespace Round

open RoundPlan

section Runs

variable {m : Type → Type} [Monad m]

/-- Offers the units of some places to an emitter and keeps each answer with its place. -/
def offer {Place : Type} (emit : Emitter m) (unit : Place → CompilationUnit)
    (places : List Place) : m (List (Place × Except EmissionError Unit)) :=
  places.mapM fun place => do
    let answer ← emit (unit place)
    pure (place, answer)

/-- Runs a round in which the classes of the plan take turns. -/
def runInOrder (repository : Repository) (config : Config) (now : String)
    (inputs : List repository.Member) (emit : Emitter m) (turns : Turns) : m RoundReport := do
  let plan := make repository config.suffix inputs
  let answers ← offer emit (fun place => (plan.classes.get place).2.render (options config now))
    (turns.places plan.classes.length)
  pure (plan.report (Turns.arrange answers))

/-- The time of a round matters only where the date is emitted. -/
theorem runInOrder_of_sameTime {config : Config} {now otherNow : String}
    (sameTime : config.emitDate → otherNow = now) (repository : Repository)
    (inputs : List repository.Member) (emit : Emitter m) (turns : Turns) :
    runInOrder repository config otherNow inputs emit turns =
      runInOrder repository config now inputs emit turns := by
  have same : options config otherNow = options config now := by
    by_cases dated : config.emitDate
    · rw [sameTime dated]
    · rw [options, options, if_neg dated, if_neg dated]
  rw [runInOrder, runInOrder, same]

end Runs

section Offers

variable {State Place : Type} (emit : Emitter (StateM State)) (unit : Place → CompilationUnit)

theorem run_offer_cons (place : Place) (rest : List Place) (state : State) :
    (offer emit unit (place :: rest)).run state =
      let (answer, next) := (emit (unit place)).run state
      let (later, last) := (offer emit unit rest).run next
      ((place, answer) :: later, last) := by
  rw [offer, List.mapM_cons]
  rfl

/-- Each place gets one answer. -/
theorem map_fst_offer (places : List Place) (state : State) :
    ((offer emit unit places).run state).1.map Prod.fst = places := by
  induction places generalizing state with
  | nil => rfl
  | cons place rest inductionHypothesis =>
    rw [run_offer_cons]
    exact congrArg (List.cons place) (inductionHypothesis _)

/-- Offering keeps the answers to the units with the places. -/
theorem run_offer_eq (places : List Place) (state : State) :
    (offer emit unit places).run state =
      let (answers, last) := (places.mapM fun place => emit (unit place)).run state
      (places.zip answers, last) := by
  induction places generalizing state with
  | nil => rfl
  | cons place rest inductionHypothesis =>
    rw [run_offer_cons, List.mapM_cons]
    have step := inductionHypothesis ((emit (unit place)).run state).2
    exact congrArg (fun outcome =>
      ((place, ((emit (unit place)).run state).1) :: outcome.1, outcome.2)) step

/-- A log holds the units in the order of the turns. -/
theorem run_offer_logging (places : List Place) (state : State) (log : EmissionLog) :
    (offer emit.logging unit places).run (state, log) =
      let (turned, last) := (offer emit unit places).run state
      (turned, last, log ++ turned.map fun (place, answer) => (unit place, answer)) := by
  rw [run_offer_eq, run_offer_eq, run_mapM_logging]
  rfl

end Offers

section InOrder

variable (repository : Repository) (config : Config) (now : String)
  (inputs : List repository.Member)
  {State : Type} (emit : Emitter (StateM State)) (state : State)

/-- A round offers its classes one after the other. -/
theorem run_runInOrder_inOrder :
    (runInOrder repository config now inputs emit .inOrder).run state =
      (runWith repository config now inputs emit).run state := by
  let plan := make repository config.suffix inputs
  let unit := fun item : Declaration × GeneratedClass => item.2.render (options config now)
  have classes : ((List.finRange plan.classes.length).mapM fun place =>
      emit (unit (plan.classes.get place))) = plan.classes.mapM fun item => emit (unit item) := by
    show (List.finRange plan.classes.length).mapM
      ((fun item => emit (unit item)) ∘ plan.classes.get) = _
    rw [← List.mapM_map, List.map_get_finRange]
  have offered := run_offer_eq emit (fun place => unit (plan.classes.get place))
    (List.finRange plan.classes.length) state
  rw [classes] at offered
  have answered := length_answers emit (·.render (options config now)) plan.classes state
  have arranged := Turns.arrange_zip answered
  refine (congrArg (fun outcome :
      List (Fin plan.classes.length × Except EmissionError Unit) × State =>
    (plan.report (Turns.arrange outcome.1), outcome.2)) offered).trans ?_
  exact congrArg (fun answers => (plan.report answers, _)) arranged

end InOrder

end Round

/-! ### What is decided before anything is offered -/

/-- What a round decides before it offers anything to an emitter. -/
structure Decisions where
  /-- The units that are offered, each with its task. -/
  offers : List (Declaration × CompilationUnit)
  /-- The names of the nested classes. -/
  filtered : List GeneratedName
  /-- What fails before anything is offered. -/
  failures : List ErrorReport

namespace Decisions

/-- The name of an offered unit if the emitter took the unit, by its log. -/
def accepted? (log : EmissionLog) : Declaration × CompilationUnit → Option GeneratedName
  | (_, unit) =>
    match log.lookup unit with
    | some (.ok ()) => some unit.name
    | _ => none

/-- The report on the task of an offered unit if the emitter refused the unit, by its log. -/
def refused? (log : EmissionLog) : Declaration × CompilationUnit → Option ErrorReport
  | (task, unit) =>
    match log.lookup unit with
    | some (.error cause) => some ⟨task.qualifiedName, .emission cause⟩
    | _ => none

/-- What the log of an emitter and the report tell of a round. -/
structure Tells (decided : Decisions) (log : EmissionLog) (report : RoundReport) : Prop where
  /-- The emitter is offered each of the decided units once, and nothing else. -/
  offered : (log.map Prod.fst).Perm (decided.offers.map Prod.snd)
  /-- The emitted classes are those of the units that the emitter took. -/
  emitted : report.emitted = decided.offers.filterMap (accepted? log)
  filtered : report.filtered = decided.filtered
  /-- After what failed before, the errors are on the tasks whose units the emitter refused. -/
  errors : report.errors = decided.failures ++ decided.offers.filterMap (refused? log)

end Decisions

/-- The name of a class that is part of another one. -/
def TaskResult.filtered? : TaskResult → Option GeneratedName
  | embedded name => some name
  | _ => none

/-- The report on a task that failed. -/
def TaskResult.failure? : TaskResult → Option ErrorReport
  | failed report => some report
  | _ => none

namespace RoundPlan

open Decisions

/-- What a plan decides. -/
def decisions (plan : RoundPlan) (options : RenderOptions) : Decisions where
  offers := plan.classes.map fun (task, generated) => (task, generated.render options)
  filtered := plan.results.filterMap TaskResult.filtered?
  failures := plan.rejected.map (fun declaration => ⟨declaration.qualifiedName, .notAnInterface⟩) ++
    plan.results.filterMap TaskResult.failure?

/-- Where the classes of a plan have distinct names, a log tells the answer to each of them. -/
theorem tells_report {plan : RoundPlan} {options : RenderOptions}
    (distinct : (plan.classes.map fun (_, generated) => generated.name.qualified).Nodup)
    {answers : List (Except EmissionError Unit)} (answered : answers.length = plan.classes.length)
    {log : EmissionLog} (told : log.Perm ((plan.classes.zip answers).map
      fun ((_, generated), answer) => (generated.render options, answer))) :
    (plan.decisions options).Tells log (plan.report answers) := by
  have classes : (plan.classes.zip answers).map Prod.fst = plan.classes :=
    List.map_fst_zip (Nat.le_of_eq answered.symm)
  have offered : (log.map Prod.fst).Perm ((plan.decisions options).offers.map Prod.snd) := by
    refine (told.map Prod.fst).trans (.of_eq ?_)
    rw [decisions, ← congrArg (List.map _) classes, List.map_map, List.map_map, List.map_map]
    rfl
  have once : (log.map Prod.fst).Nodup := by
    rw [offered.nodup_iff]
    refine List.Nodup.of_map (·.name.qualified) ?_
    rw [decisions, List.map_map, List.map_map]
    exact distinct
  have answer : ∀ pair ∈ plan.classes.zip answers,
      log.lookup (pair.1.2.render options) = some pair.2 := by
    intro pair member
    exact Turns.lookup_eq_some_of_mem once (told.mem_iff.mpr (List.mem_map_of_mem member))
  -- a list of what the log tells of each class is a list of what its answer tells
  have read {Told : Type} (tell : (Declaration × GeneratedClass) × Except EmissionError Unit →
      Option Told) (look : Declaration × CompilationUnit → Option Told)
      (agree : ∀ pair ∈ plan.classes.zip answers,
        tell pair = look (pair.1.1, pair.1.2.render options)) :
      (plan.classes.zip answers).filterMap tell =
        (plan.decisions options).offers.filterMap look := by
    rw [List.filterMap_congr agree, decisions, List.filterMap_map,
      ← congrArg (List.filterMap _) classes, List.filterMap_map]
    rfl
  refine ⟨offered, ?_, rfl, ?_⟩
  · refine read _ _ fun pair member => ?_
    rw [accepted?, answer pair member]
    rcases pair with ⟨_, _ | _⟩ <;> rfl
  · refine congrArg (_ ++ ·) (read _ _ fun pair member => ?_)
    rw [refused?, answer pair member]
    rcases pair with ⟨_, _ | _⟩ <;> rfl

end RoundPlan

namespace Round

open RoundPlan

/-- What a round decides over some declarations of the repository. -/
def decisions (repository : Repository) (config : Config) (now : String)
    (inputs : List repository.Member) : Decisions :=
  (make repository config.suffix inputs).decisions (options config now)

/-- A unit that is offered is rendered from the class that is to be emitted for its task. -/
theorem exists_class_of_mem_offers {repository : Repository} {config : Config} {now : String}
    {inputs : List repository.Member} {offer : Declaration × CompilationUnit}
    (member : offer ∈ (decisions repository config now inputs).offers) :
    ∃ generated, (offer.1, generated) ∈ (make repository config.suffix inputs).classes ∧
      generated.render (options config now) = offer.2 := by
  obtain ⟨⟨task, generated⟩, isClass, rfl⟩ := List.mem_map.mp member
  exact ⟨generated, isClass, rfl⟩

/-- The units that are offered have distinct names. -/
theorem nodup_names_offers (repository : Repository) (config : Config) (now : String)
    (inputs : List repository.Member) :
    ((decisions repository config now inputs).offers.map (·.2.name.qualified)).Nodup := by
  rw [decisions, RoundPlan.decisions, List.map_map]
  exact nodup_names_classes repository config.suffix inputs

/-- Whatever the emitter and the order are, a log and the report tell what has been decided. -/
theorem tells_runInOrder (repository : Repository) (config : Config) (now : String)
    (inputs : List repository.Member) {State : Type} (emit : Emitter (StateM State)) (state : State)
    (turns : Turns) :
    ∃ log : EmissionLog,
      (runInOrder repository config now inputs emit.logging turns).run (state, []) =
          (((runInOrder repository config now inputs emit turns).run state).1,
            ((runInOrder repository config now inputs emit turns).run state).2, log) ∧
        (decisions repository config now inputs).Tells log
          ((runInOrder repository config now inputs emit turns).run state).1 := by
  let plan := make repository config.suffix inputs
  let unit := fun place => (plan.classes.get place).2.render (options config now)
  let places := turns.places plan.classes.length
  let turned := ((offer emit unit places).run state).1
  have taken : (turned.map Prod.fst).Perm (List.finRange plan.classes.length) := by
    rw [map_fst_offer]
    exact turns.each _
  obtain ⟨answered, arranged⟩ := Turns.perm_zip_arrange taken
  have logged := congrArg
    (fun outcome : List (Fin plan.classes.length × Except EmissionError Unit) ×
      State × EmissionLog => (plan.report (Turns.arrange outcome.1), outcome.2))
    (run_offer_logging emit unit places state [])
  refine ⟨_, logged, tells_report (nodup_names_classes _ _ _) answered ?_⟩
  refine (arranged.map fun (place, answer) => (unit place, answer)).trans (.of_eq ?_)
  have classes := List.map_get_finRange plan.classes
  rw [← congrArg (List.zip · _) classes, List.zip_map_left, List.map_map]
  rfl

end Round

end ValueGen
