/-
This file plans and runs a generation round. The interfaces among the dispatched declarations are
the tasks of the round; all of them are put together with one cache of names, and a failure of one
does not keep the others back. Of the outermost classes with one name the first is to be emitted,
and the later ones fail. The plan does not depend on what the emitter will say: when the round is
run, the classes are rendered and offered to an emitter one after the other, and a refusal does not
keep the later ones back.
-/

import ValueGen.Config.Basic
import ValueGen.Emission.Emitter
import ValueGen.Round.Dispatch
import ValueGen.Round.Report
import ValueGen.Source.Render

namespace ValueGen

/-- What has become of a task before anything is emitted. -/
inductive TaskResult
  /-- The class is to be emitted. -/
  | toEmit (task : Declaration) (generated : GeneratedClass)
  /-- The class is part of another one. -/
  | embedded (name : GeneratedName)
  /-- There is no class, or its name is taken. -/
  | failed (report : ErrorReport)

/-- The plan of a round. -/
structure RoundPlan where
  /-- The dispatched declarations that are neither interfaces nor marker groups. -/
  rejected : List Declaration
  /-- The results of the tasks, in order. -/
  results : List TaskResult

namespace RoundPlan

/-- Tells the results of tasks apart; `claimed` holds each name that is taken, with the qualified
name of the declaration that took it. -/
def claim (claimed : List (String × String)) :
    List (Declaration × Except GenerationError GeneratedClass) → List TaskResult
  | [] => []
  | (task, .error error) :: rest => .failed ⟨task.qualifiedName, error⟩ :: claim claimed rest
  | (task, .ok generated) :: rest =>
    if generated.isTopLevel then
      let name := generated.name.qualified
      match claimed.lookup name with
      | some first =>
        .failed ⟨task.qualifiedName, .nameCollision name first⟩ :: claim claimed rest
      | none => .toEmit task generated :: claim ((name, task.qualifiedName) :: claimed) rest
    else .embedded generated.name :: claim claimed rest

/-- The classes for some tasks, all of which share a cache of names. -/
def synthesizeTasks (repository : Repository) (suffix : String) (tasks : List Declaration) :
    List (Declaration × Except GenerationError GeneratedClass) :=
  let resolver := Resolver.remembering repository suffix
  let run := tasks.mapM fun task => do
    let outcome ← resolver.synthesize task
    pure (task, outcome)
  (run.run NameCache.empty).1

/-- The plan of a round with the given inputs. -/
def make (repository : Repository) (suffix : String) (inputs : List repository.Member) :
    RoundPlan :=
  ⟨repository.rejected inputs,
    claim [] (synthesizeTasks repository suffix (repository.tasks inputs))⟩

/-- The classes that are to be emitted, each with its task. -/
def classes (plan : RoundPlan) : List (Declaration × GeneratedClass) :=
  plan.results.filterMap fun
    | .toEmit task generated => some (task, generated)
    | _ => none

/-- The report on a round in which the emitter gave an answer to each class, in order. -/
def report (plan : RoundPlan) (answers : List (Except EmissionError Unit)) : RoundReport :=
  let answered := plan.classes.zip answers
  { emitted := answered.filterMap fun
      | ((_, generated), .ok ()) => some generated.name
      | _ => none
    filtered := plan.results.filterMap fun
      | .embedded name => some name
      | _ => none
    errors :=
      plan.rejected.map (fun declaration => ⟨declaration.qualifiedName, .notAnInterface⟩) ++
        plan.results.filterMap (fun
          | .failed report => some report
          | _ => none) ++
        answered.filterMap fun
          | ((task, _), .error cause) => some ⟨task.qualifiedName, .emission cause⟩
          | _ => none }

end RoundPlan

/-! ### Running a round -/

namespace Round

variable {m : Type → Type} [Monad m]

/-- What the units of a round are rendered with; `now` is the time of generation. -/
def options (config : Config) (now : String) : RenderOptions :=
  { RenderOptions.plain config.generatorId with
    date := if config.emitDate then some now else none }

/-- Runs a round over some declarations of the repository. -/
def runWith (repository : Repository) (config : Config) (now : String)
    (inputs : List repository.Member) (emit : Emitter m) : m RoundReport := do
  let plan := RoundPlan.make repository config.suffix inputs
  let answers ← plan.classes.mapM fun (_, generated) =>
    emit (generated.render (options config now))
  pure (plan.report answers)

/-- Runs a round over every declaration that carries the marker itself. -/
def run (repository : Repository) (config : Config) (now : String) (emit : Emitter m) :
    m RoundReport :=
  runWith repository config now repository.markedMembers emit

end Round

end ValueGen
