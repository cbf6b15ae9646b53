/-
This file says what it is to be marked in effect without a search: a declaration is if it carries
the marker itself or if it is annotated with a marker group that is. The search for a marked group
finds one exactly when one can be reached along annotations, on every annotation graph, and so the
marker in effect is there exactly for the declarations that are marked in effect.
-/

import ValueGen.Proofs.Repository.Reaching
import ValueGen.Repository.Marking

namespace ValueGen.Repository

variable {repository : Repository}

/-- A declaration is marked in effect if it carries the marker, or if it is annotated with a
marker group of the repository that is marked in effect. -/
inductive MarkedInEffect (repository : Repository) : Declaration → Prop
  | own {declaration : Declaration} (carried : declaration.marker.isSome) :
    MarkedInEffect repository declaration
  | inherited {declaration group : Declaration} (member : group ∈ repository.groups)
    (annotated : group.qualifiedName ∈ declaration.annotations)
    (marked : MarkedInEffect repository group) : MarkedInEffect repository declaration

theorem mem_groups_iff (repository : Repository) (group : Declaration) :
    group ∈ repository.groups ↔
      group ∈ repository.declarations ∧ group.kind = .markerGroup := by
  rw [groups, List.mem_filter, decide_eq_true_eq]

theorem distinct_groups (repository : Repository) :
    (repository.groups.map (·.qualifiedName)).Nodup :=
  repository.distinct.sublist (List.filter_sublist.map _)

/-! ### The search for a marked group -/

/-- The search finds a marked group exactly if one is reached along annotations within the groups
that have not been entered. -/
theorem leadsToMarker_iff (pending : List String) (unvisited : List Declaration)
    (distinct : (unvisited.map (·.qualifiedName)).Nodup) :
    leadsToMarker pending unvisited = true ↔
      ∃ group, ReachedIn (·.annotations) unvisited pending group ∧ group.marker.isSome := by
  induction pending, unvisited using leadsToMarker.induct with
  | case1 unvisited =>
    rw [leadsToMarker]
    refine ⟨fun impossible => (by cases impossible), ?_⟩
    rintro ⟨group, reached, _⟩
    exact absurd reached (ReachedIn.not_nil group)
  | case2 unvisited annotation rest missing inductionHypothesis =>
    rw [leadsToMarker_of_missing missing, inductionHypothesis distinct]
    simp only [ReachedIn.cons_iff_of_missing missing]
  | case3 unvisited annotation rest group found _ inductionHypothesis =>
    rw [leadsToMarker_of_found found, Bool.or_eq_true,
      inductionHypothesis (distinct_without distinct annotation)]
    simp only [ReachedIn.cons_iff_of_found distinct found, or_and_right, exists_or,
      exists_eq_left]

/-- A declaration whose annotations lead to a declaration marked in effect is marked in effect. -/
theorem MarkedInEffect.of_reached {declaration group : Declaration}
    (reached : ReachedIn (·.annotations) repository.groups declaration.annotations group)
    (marked : MarkedInEffect repository group) : MarkedInEffect repository declaration := by
  induction reached with
  | seed member named => exact .inherited member named marked
  | step _ member named inductionHypothesis =>
    exact inductionHypothesis (.inherited member named marked)

/-- A declaration is marked in effect exactly if it carries the marker or a group that carries it
is reached along annotations. -/
theorem markedInEffect_iff (repository : Repository) (declaration : Declaration) :
    MarkedInEffect repository declaration ↔
      declaration.marker.isSome ∨
        ∃ group, ReachedIn (·.annotations) repository.groups declaration.annotations group ∧
          group.marker.isSome := by
  constructor
  · intro marked
    induction marked with
    | own carried => exact Or.inl carried
    | @inherited declaration group member annotated _ inductionHypothesis =>
      refine Or.inr ?_
      have here : ReachedIn (·.annotations) repository.groups declaration.annotations group :=
        .seed member annotated
      rcases inductionHypothesis with carried | ⟨last, reached, carried⟩
      · exact ⟨group, here, carried⟩
      · exact ⟨last, here.trans reached, carried⟩
  · rintro (carried | ⟨group, reached, carried⟩)
    · exact .own carried
    · exact .of_reached reached (.own carried)

/-! ### The marker in effect -/

/-- The marker in effect is there exactly for the declarations that are marked in effect. -/
theorem markerOf?_isSome_iff (repository : Repository) (declaration : Declaration) :
    (repository.markerOf? declaration).isSome ↔ MarkedInEffect repository declaration := by
  rw [markedInEffect_iff, ← leadsToMarker_iff _ _ repository.distinct_groups]
  unfold markerOf?
  cases declaration.marker with
  | some marker => simp
  | none => cases leadsToMarker declaration.annotations repository.groups <;> simp

/-- The name that the marker in effect gives is the one that the own marker gives: a marker that
comes from a group gives none. -/
theorem explicitName?_markerOf? (repository : Repository) (declaration : Declaration) :
    (repository.markerOf? declaration).bind (·.explicitName?) =
      declaration.marker.bind (·.explicitName?) := by
  unfold markerOf?
  cases declaration.marker with
  | some marker => rfl
  | none => cases leadsToMarker declaration.annotations repository.groups <;> rfl

end ValueGen.Repository
