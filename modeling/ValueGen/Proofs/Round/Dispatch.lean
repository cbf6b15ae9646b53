/-
This file says which declarations a round deals with: those that are reached from the inputs by
going from a marker group to what is annotated with it. The walk comes to each of them once. From
the declarations that carry the marker it reaches exactly those that are marked in effect: the
walk down from marker groups and the search up along annotations agree on every annotation graph.
-/

import Mathlib.Data.List.Nodup
import ValueGen.Proofs.Repository.Marking
import ValueGen.Round.Dispatch

namespace ValueGen.Repository

variable {repository : Repository}

/-! ### Members of marker groups -/

theorem mem_annotatedWith_iff (repository : Repository) (name : String)
    (declaration : Declaration) :
    declaration ∈ repository.annotatedWith name ↔
      declaration ∈ repository.declarations ∧ name ∈ declaration.annotations := by
  rw [annotatedWith, List.mem_flatMap]
  constructor
  · rintro ⟨other, member, copies⟩
    obtain ⟨often, rfl⟩ := List.mem_replicate.mp copies
    exact ⟨member, List.count_pos_iff.mp (Nat.pos_of_ne_zero often)⟩
  · rintro ⟨member, annotated⟩
    have often : declaration.annotations.count name ≠ 0 :=
      Nat.ne_of_gt (List.count_pos_iff.mpr annotated)
    exact ⟨declaration, member, List.mem_replicate.mpr ⟨often, rfl⟩⟩

theorem mem_membersOf_iff (repository : Repository) (group declaration : Declaration) :
    declaration ∈ repository.membersOf group ↔
      group.kind = .markerGroup ∧ declaration ∈ repository.declarations ∧
        group.qualifiedName ∈ declaration.annotations := by
  unfold membersOf
  by_cases isGroup : group.kind = .markerGroup
  · rw [if_pos isGroup, mem_annotatedWith_iff]
    exact ⟨fun member => ⟨isGroup, member⟩, fun member => member.2⟩
  · rw [if_neg isGroup]
    exact ⟨fun impossible => (by cases impossible), fun member => absurd member.1 isGroup⟩

/-- The names of the members of a declaration. -/
def memberNames (repository : Repository) (declaration : Declaration) : List String :=
  (repository.membersOf declaration).map (·.qualifiedName)

/-! ### The walk -/

/-- The walk comes to what is reached from the pending declarations within those it has not come
to. -/
theorem mem_visit_iff (pending undispatched : List Declaration)
    (distinct : (undispatched.map (·.qualifiedName)).Nodup) (declaration : Declaration) :
    declaration ∈ repository.visit pending undispatched ↔
      ReachedIn repository.memberNames undispatched (pending.map (·.qualifiedName))
        declaration := by
  induction pending, undispatched using visit.induct repository with
  | case1 undispatched =>
    rw [visit]
    exact ⟨fun impossible => (by cases impossible),
      fun reached => absurd reached (ReachedIn.not_nil declaration)⟩
  | case2 undispatched first rest missing inductionHypothesis =>
    rw [visit_of_missing missing, inductionHypothesis distinct, List.map_cons,
      ReachedIn.cons_iff_of_missing missing]
  | case3 undispatched first rest dispatched found _ inductionHypothesis =>
    rw [visit_of_found found, List.mem_cons,
      inductionHypothesis (distinct_without distinct first.qualifiedName), List.map_append,
      List.map_cons, ReachedIn.cons_iff_of_found distinct found]
    rfl

/-- The walk comes to no declaration twice. -/
theorem nodup_visit (pending undispatched : List Declaration)
    (distinct : (undispatched.map (·.qualifiedName)).Nodup) :
    (repository.visit pending undispatched).Nodup := by
  induction pending, undispatched using visit.induct repository with
  | case1 undispatched =>
    rw [visit]
    exact List.nodup_nil
  | case2 undispatched first rest missing inductionHypothesis =>
    rw [visit_of_missing missing]
    exact inductionHypothesis distinct
  | case3 undispatched first rest dispatched found _ inductionHypothesis =>
    have remaining := distinct_without distinct first.qualifiedName
    rw [visit_of_found found, List.nodup_cons]
    refine ⟨fun again => ?_, inductionHypothesis remaining⟩
    -- what the walk comes to later is left over, and the declaration just come to is not
    have left := ((mem_visit_iff _ _ remaining dispatched).mp again).mem
    exact ((mem_without_iff _ _ _).mp left).2 (by simpa using List.find?_some found)

/-! ### The dispatched declarations -/

/-- A round deals with what is reached from its inputs. -/
theorem mem_dispatch_iff (repository : Repository) (inputs : List repository.Member)
    (declaration : Declaration) :
    declaration ∈ repository.dispatch inputs ↔
      ReachedIn repository.memberNames repository.declarations
        (inputs.unattach.map (·.qualifiedName)) declaration :=
  mem_visit_iff inputs.unattach repository.declarations repository.distinct declaration

theorem mem_of_mem_dispatch {inputs : List repository.Member} {declaration : Declaration}
    (member : declaration ∈ repository.dispatch inputs) : declaration ∈ repository.declarations :=
  ((mem_dispatch_iff _ _ _).mp member).mem

theorem nodup_dispatch (repository : Repository) (inputs : List repository.Member) :
    (repository.dispatch inputs).Nodup :=
  nodup_visit inputs.unattach repository.declarations repository.distinct

theorem mem_marked_iff (repository : Repository) (declaration : Declaration) :
    declaration ∈ repository.marked ↔
      declaration ∈ repository.declarations ∧ declaration.marker.isSome := by
  rw [marked, List.mem_filter]

/-- A name among the names of some declarations of the repository belongs to the declaration of
the repository with that name. -/
theorem mem_of_qualifiedName_mem {declarations : List Declaration} {declaration : Declaration}
    (known : ∀ other ∈ declarations, other ∈ repository.declarations)
    (member : declaration ∈ repository.declarations)
    (named : declaration.qualifiedName ∈ declarations.map (·.qualifiedName)) :
    declaration ∈ declarations := by
  obtain ⟨other, otherMember, same⟩ := List.mem_map.mp named
  rw [← eq_of_qualifiedName (known other otherMember) member same]
  exact otherMember

/-- The declarations that are reached from those with the marker are the declarations that are
marked in effect. -/
theorem mem_dispatch_marked_iff (repository : Repository) (declaration : Declaration) :
    declaration ∈ repository.dispatch repository.markedMembers ↔
      declaration ∈ repository.declarations ∧ MarkedInEffect repository declaration := by
  rw [mem_dispatch_iff, unattach_markedMembers]
  constructor
  · intro reached
    refine ⟨reached.mem, ?_⟩
    induction reached with
    | seed member named =>
      have carries := mem_of_qualifiedName_mem
        (fun other isMarked => ((mem_marked_iff _ other).mp isMarked).1) member named
      exact .own ((mem_marked_iff _ _).mp carries).2
    | @step declaration group reached member named inductionHypothesis =>
      have inside : declaration ∈ repository.membersOf group :=
        mem_of_qualifiedName_mem (fun other inside => ((mem_membersOf_iff _ _ _).mp inside).2.1)
          member named
      obtain ⟨isGroup, _, annotated⟩ := (mem_membersOf_iff _ _ _).mp inside
      exact .inherited ((mem_groups_iff _ _).mpr ⟨reached.mem, isGroup⟩) annotated
        inductionHypothesis
  · rintro ⟨member, marked⟩
    induction marked with
    | own carried =>
      exact .seed member (List.mem_map_of_mem ((mem_marked_iff _ _).mpr ⟨member, carried⟩))
    | inherited groupMember annotated _ inductionHypothesis =>
      obtain ⟨known, isGroup⟩ := (mem_groups_iff _ _).mp groupMember
      refine .step (inductionHypothesis known) member (List.mem_map_of_mem ?_)
      exact (mem_membersOf_iff _ _ _).mpr ⟨isGroup, member, annotated⟩

theorem mem_tasks_iff (repository : Repository) (inputs : List repository.Member)
    (declaration : Declaration) :
    declaration ∈ repository.tasks inputs ↔
      declaration ∈ repository.dispatch inputs ∧ declaration.kind = .interface := by
  rw [tasks, List.mem_filter, decide_eq_true_eq]

/-- The tasks of a round are the interfaces that are marked in effect. -/
theorem mem_tasks_marked_iff (repository : Repository) (declaration : Declaration) :
    declaration ∈ repository.tasks repository.markedMembers ↔
      declaration ∈ repository.declarations ∧ (repository.markerOf? declaration).isSome ∧
        declaration.kind = .interface := by
  rw [mem_tasks_iff, mem_dispatch_marked_iff, markerOf?_isSome_iff, and_assoc]

theorem mem_rejected_iff (repository : Repository) (inputs : List repository.Member)
    (declaration : Declaration) :
    declaration ∈ repository.rejected inputs ↔
      declaration ∈ repository.dispatch inputs ∧ declaration.kind = .other := by
  rw [rejected, List.mem_filter, decide_eq_true_eq]

end ValueGen.Repository
