/-
This file says that a round deals with the declarations that are marked in effect, all of them and
no others, whatever the annotation graph. Each interface among them becomes one task with one
result, each declaration of another shape is rejected once, and marker groups become neither.
-/

import ValueGen.Proofs.Round.Outcome

namespace ValueGen.Round

open Repository

variable {repository : Repository} {inputs : List repository.Member}

/-! ### Tasks and rejections -/

theorem nodup_tasks (repository : Repository) (inputs : List repository.Member) :
    (repository.tasks inputs).Nodup :=
  (nodup_dispatch repository inputs).filter _

theorem nodup_rejected (repository : Repository) (inputs : List repository.Member) :
    (repository.rejected inputs).Nodup :=
  (nodup_dispatch repository inputs).filter _

/-- The reports on the rejected declarations. -/
def rejections (repository : Repository) (inputs : List repository.Member) : List ErrorReport :=
  (repository.rejected inputs).map fun declaration => ⟨declaration.qualifiedName, .notAnInterface⟩

theorem mem_of_mem_rejected {declaration : Declaration}
    (member : declaration ∈ repository.rejected inputs) : declaration ∈ repository.declarations :=
  mem_of_mem_dispatch ((mem_rejected_iff _ _ _).mp member).1

theorem mem_rejections_iff {declaration : Declaration}
    (member : declaration ∈ repository.declarations) :
    ⟨declaration.qualifiedName, .notAnInterface⟩ ∈ rejections repository inputs ↔
      declaration ∈ repository.rejected inputs := by
  rw [rejections, List.mem_map]
  constructor
  · rintro ⟨other, rejected, same⟩
    have named := congrArg ErrorReport.declaration same
    exact eq_of_qualifiedName (mem_of_mem_rejected rejected) member named ▸ rejected
  · exact fun rejected => ⟨declaration, rejected, rfl⟩

/-- The reports are distinct, since the names of the declarations are. -/
theorem nodup_rejections (repository : Repository) (inputs : List repository.Member) :
    (rejections repository inputs).Nodup := by
  refine (nodup_rejected repository inputs).map_on ?_
  intro first firstMember second secondMember same
  exact eq_of_qualifiedName (mem_of_mem_rejected firstMember) (mem_of_mem_rejected secondMember)
    (congrArg ErrorReport.declaration same)

/-- All that a report says of rejected declarations comes from the plan's rejections. -/
theorem count_errors_report (repository : Repository) (suffix : String)
    (inputs : List repository.Member)
    (answers : List (Except EmissionError Unit)) (name : String) :
    ((RoundPlan.make repository suffix inputs).report answers).errors.count
        ⟨name, .notAnInterface⟩ =
      (rejections repository inputs).count ⟨name, .notAnInterface⟩ := by
  obtain ⟨failures, refusals, split, failed, refused⟩ :=
    (RoundPlan.make repository suffix inputs).errors_report answers
  have noFailure : (⟨name, .notAnInterface⟩ : ErrorReport) ∉ failures := fun member =>
    RoundPlan.error_ne_of_failed_mem_results ((failed _).mp member) rfl
  have noRefusal : (⟨name, .notAnInterface⟩ : ErrorReport) ∉ refusals := by
    intro member
    obtain ⟨task, cause, same⟩ := refused _ member
    cases same
  rw [split, List.count_append, List.count_append, List.count_eq_zero.mpr noFailure,
    List.count_eq_zero.mpr noRefusal]
  rfl

/-! ### The whole round -/

/-- What a report says of a round over a list of declarations that deals with the right ones. -/
structure Covers (declarations : List Declaration) (repository : Repository) (suffix : String)
    (report : RoundReport) : Prop where
  /-- Exactly the declarations that are marked in effect are dispatched, each of them once. -/
  dispatched : (repository.dispatch repository.markedMembers).Nodup ∧
    ∀ declaration, declaration ∈ repository.dispatch repository.markedMembers ↔
      declaration ∈ declarations ∧ (repository.markerOf? declaration).isSome
  /-- Each interface that is marked in effect is one task, and nothing else is one. -/
  tasks : ∀ declaration, (repository.tasks repository.markedMembers).count declaration =
    if declaration ∈ declarations ∧ declaration.kind = .interface ∧
      (repository.markerOf? declaration).isSome then 1 else 0
  /-- Each task has one result. -/
  results : List.Forall₂
    (fun task result => RoundPlan.Settled task
      ((Resolver.direct repository suffix).synthesize task).run result)
    (repository.tasks repository.markedMembers)
    (RoundPlan.make repository suffix repository.markedMembers).results
  /-- Each declaration of another shape that is marked in effect is rejected once; interfaces and
  marker groups are not. -/
  rejections : ∀ declaration ∈ declarations,
    report.errors.count ⟨declaration.qualifiedName, .notAnInterface⟩ =
      if declaration.kind = .other ∧ (repository.markerOf? declaration).isSome then 1 else 0
  /-- No other name is rejected. -/
  rejected_known : ∀ name, ⟨name, .notAnInterface⟩ ∈ report.errors →
    ∃ declaration ∈ declarations, declaration.qualifiedName = name

/-- A round deals with the declarations that are marked in effect, whatever the annotation graph
and whatever the emitter does. -/
theorem covers_run {declarations : List Declaration} {repository : Repository}
    (accepted : Repository.ofList declarations = .ok repository) (config : Config) (now : String)
    {State : Type} (emit : Emitter (StateM State)) (state : State) :
    Covers declarations repository config.suffix
      ((run repository config now emit).run state).1 := by
  obtain rfl := declarations_of_ofList accepted
  have inEffect : ∀ declaration, declaration ∈ repository.dispatch repository.markedMembers ↔
      declaration ∈ repository.declarations ∧ (repository.markerOf? declaration).isSome := by
    intro declaration
    rw [mem_dispatch_marked_iff, markerOf?_isSome_iff]
  obtain ⟨answers, _, same⟩ :=
    exists_answers repository config now repository.markedMembers emit state
  rw [run, same]
  refine ⟨⟨nodup_dispatch _ _, inEffect⟩, fun declaration => ?_, RoundPlan.settled_make _ _ _,
    fun declaration member => ?_, fun name member => ?_⟩
  · refine (nodup_tasks _ _).count.trans (if_congr ?_ rfl rfl)
    rw [mem_tasks_marked_iff, and_comm (b := declaration.kind = .interface)]
  · rw [count_errors_report]
    refine (nodup_rejections _ _).count.trans (if_congr ?_ rfl rfl)
    rw [mem_rejections_iff member, mem_rejected_iff, inEffect]
    exact ⟨fun ⟨⟨_, marked⟩, other⟩ => ⟨other, marked⟩,
      fun ⟨other, marked⟩ => ⟨⟨member, marked⟩, other⟩⟩
  · rw [← List.count_pos_iff, count_errors_report, List.count_pos_iff] at member
    obtain ⟨declaration, rejected, named⟩ := List.mem_map.mp member
    exact ⟨declaration, mem_of_mem_rejected rejected, congrArg ErrorReport.declaration named⟩

/-- Two marker groups that are annotated with each other, one of them marked, a third one between
them and an interface, a class and an interface that carries the group twice, and annotations that
lead nowhere. -/
def cyclicGroups : List Declaration :=
  let group := fun name => Declaration.new "pkg" name .markerGroup
  let interface := fun name => Declaration.interface "pkg" name
  [{ group "First" with annotations := ["pkg.Second"], marker := some .plain },
    { group "Second" with annotations := ["pkg.First"] },
    { group "Third" with annotations := ["pkg.Second"] },
    { interface "Diamond" with annotations := ["pkg.Third", "pkg.First"] },
    { interface "Twice" with annotations := ["pkg.Third", "pkg.Third"] },
    { Declaration.new "pkg" "Class" .other with annotations := ["pkg.Second"] },
    { interface "Plain" with annotations := ["pkg.Twice", "pkg.None"] }]

theorem covers_run_cyclicGroups :
    Repository.ofList cyclicGroups = .ok ⟨cyclicGroups, by decide⟩ ∧
      Covers cyclicGroups ⟨cyclicGroups, by decide⟩ "POJO"
        ((run ⟨cyclicGroups, by decide⟩ .default "" Emitter.inMemory).run []).1 :=
  ⟨rfl, covers_run rfl .default "" Emitter.inMemory []⟩

/-- The walk goes around the cycle once and goes no further than the members of groups. -/
example : ((run ⟨cyclicGroups, by decide⟩ .default "" Emitter.inMemory).run []).1 =
    ⟨[⟨"pkg", "DiamondPOJO", []⟩, ⟨"pkg", "TwicePOJO", []⟩], [],
      [⟨"pkg.Class", .notAnInterface⟩]⟩ := by
  decide +kernel

end ValueGen.Round
