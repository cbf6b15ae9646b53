/-
This file says what the search for a marked group does. It finds one exactly where a path of
annotations leads from the declaration through marker groups of the repository to one that carries
the marker. In its recursive form the search is a loop over the annotations of a declaration that
searches a group before it goes to the next annotation; the names it has entered are shared by all
loops that are open. A group whose name has been entered is passed over, finished or not, and that
hides no marked group; so the search ends on every annotation graph, each group entered once at
most.
-/

import Mathlib.Data.List.Chain
import Mathlib.Data.List.Nodup
import ValueGen.Proofs.Repository.Marking

namespace ValueGen.Repository

variable {repository : Repository}

/-! ### Paths of annotations -/

/-- An annotation leads from a declaration to the marker group of the repository that it names. -/
def AnnotatedWithGroup (repository : Repository) (declaration group : Declaration) : Prop :=
  ∃ name ∈ declaration.annotations,
    repository.get? name = some group ∧ group.kind = .markerGroup

/-- A path of annotations, one at least, leads from a declaration through marker groups to one that
carries the marker. -/
def LeadsToMarkedGroup (repository : Repository) (declaration : Declaration) : Prop :=
  ∃ path last, List.IsChain repository.AnnotatedWithGroup (declaration :: path) ∧
    path.getLast? = some last ∧ last.marker.isSome

theorem annotatedWithGroup_iff (repository : Repository) (declaration group : Declaration) :
    repository.AnnotatedWithGroup declaration group ↔
      group ∈ repository.groups ∧ group.qualifiedName ∈ declaration.annotations := by
  rw [mem_groups_iff]
  constructor
  · rintro ⟨name, annotated, found, isGroup⟩
    obtain ⟨member, rfl⟩ := (repository.get?_eq_some_iff name group).mp found
    exact ⟨⟨member, isGroup⟩, annotated⟩
  · rintro ⟨⟨member, isGroup⟩, annotated⟩
    exact ⟨_, annotated, (repository.get?_eq_some_iff _ group).mpr ⟨member, rfl⟩, isGroup⟩

/-- What is reached along annotations is at the end of a path. -/
theorem exists_path_of_reached {declaration group : Declaration}
    (reached : ReachedIn (·.annotations) repository.groups declaration.annotations group) :
    ∃ path, List.IsChain repository.AnnotatedWithGroup (declaration :: path) ∧
      path.getLast? = some group := by
  induction reached with
  | @seed group member named =>
    have step := (annotatedWithGroup_iff _ declaration group).mpr ⟨member, named⟩
    exact ⟨[group], .cons_cons step (.singleton group), rfl⟩
  | @step group before _ member named inductionHypothesis =>
    obtain ⟨path, chain, last⟩ := inductionHypothesis
    refine ⟨path ++ [group], ?_, List.getLast?_concat⟩
    rw [← List.cons_append]
    refine chain.append (.singleton group) fun other isLast next isNext => ?_
    have same : other = before := by
      rw [List.getLast?_cons, last] at isLast
      exact (Option.some.inj isLast).symm
    rw [same, ← Option.some.inj isNext]
    exact (annotatedWithGroup_iff _ _ _).mpr ⟨member, named⟩

/-- What is at the end of a path is reached along annotations. -/
theorem reached_of_path {declaration group : Declaration} (path : List Declaration)
    (chain : List.IsChain repository.AnnotatedWithGroup (declaration :: path))
    (last : path.getLast? = some group) :
    ReachedIn (·.annotations) repository.groups declaration.annotations group := by
  induction path generalizing declaration with
  | nil => cases last
  | cons first rest inductionHypothesis =>
    obtain ⟨step, further⟩ := List.isChain_cons_cons.mp chain
    obtain ⟨member, named⟩ := (annotatedWithGroup_iff _ _ _).mp step
    have here : ReachedIn (·.annotations) repository.groups declaration.annotations first :=
      .seed member named
    cases rest with
    | nil => exact Option.some.inj last ▸ here
    | cons second rest =>
      rw [List.getLast?_cons_cons] at last
      exact here.trans (inductionHypothesis further last)

theorem leadsToMarker_annotations_iff (repository : Repository) (declaration : Declaration) :
    leadsToMarker declaration.annotations repository.groups = true ↔
      repository.LeadsToMarkedGroup declaration := by
  rw [leadsToMarker_iff _ _ repository.distinct_groups]
  constructor
  · rintro ⟨group, reached, carried⟩
    obtain ⟨path, chain, last⟩ := exists_path_of_reached reached
    exact ⟨path, group, chain, last, carried⟩
  · rintro ⟨path, group, chain, last, carried⟩
    exact ⟨group, reached_of_path path chain last, carried⟩

/-! ### The search in recursive form -/

/-- The search among the annotations of a declaration, from some names entered to others, with its
answer: it passes over what names no marker group and what has been entered, ends at a marked
group, and searches any other group before it goes on. -/
inductive MarkerSearch (repository : Repository) :
    List String → List String → Bool → List String → Prop
  | exhausted (entered : List String) : MarkerSearch repository [] entered false entered
  | passedOver {name : String} {rest entered after : List String} {answer : Bool}
    (known : ∀ group ∈ repository.groups, group.qualifiedName = name → name ∈ entered)
    (later : MarkerSearch repository rest entered answer after) :
    MarkerSearch repository (name :: rest) entered answer after
  | marked {name : String} {rest entered : List String} {group : Declaration}
    (member : group ∈ repository.groups) (named : group.qualifiedName = name)
    (fresh : name ∉ entered) (carried : group.marker.isSome) :
    MarkerSearch repository (name :: rest) entered true (name :: entered)
  | inherited {name : String} {rest entered after : List String} {group : Declaration}
    (member : group ∈ repository.groups) (named : group.qualifiedName = name)
    (fresh : name ∉ entered) (unmarked : group.marker.isSome = false)
    (inside : MarkerSearch repository group.annotations (name :: entered) true after) :
    MarkerSearch repository (name :: rest) entered true after
  | fruitless {name : String} {rest entered between after : List String} {answer : Bool}
    {group : Declaration} (member : group ∈ repository.groups)
    (named : group.qualifiedName = name) (fresh : name ∉ entered)
    (unmarked : group.marker.isSome = false)
    (inside : MarkerSearch repository group.annotations (name :: entered) false between)
    (later : MarkerSearch repository rest between answer after) :
    MarkerSearch repository (name :: rest) entered answer after

namespace MarkerSearch

/-- A search among the annotations of two lists is one among the first and then, if that finds no
marked group, one among the second. -/
theorem of_append {first second entered after : List String} {answer : Bool}
    (search : MarkerSearch repository (first ++ second) entered answer after) :
    (answer = true ∧ MarkerSearch repository first entered true after) ∨
      ∃ between, MarkerSearch repository first entered false between ∧
        MarkerSearch repository second between answer after := by
  induction first generalizing entered with
  | nil => exact .inr ⟨entered, .exhausted entered, search⟩
  | cons name rest inductionHypothesis =>
    rw [List.cons_append] at search
    cases search with
    | passedOver known later =>
      rcases inductionHypothesis later with ⟨found, here⟩ | ⟨between, here, there⟩
      · exact .inl ⟨found, .passedOver known here⟩
      · exact .inr ⟨between, .passedOver known here, there⟩
    | marked member named fresh carried => exact .inl ⟨rfl, .marked member named fresh carried⟩
    | inherited member named fresh unmarked inside =>
      exact .inl ⟨rfl, .inherited member named fresh unmarked inside⟩
    | fruitless member named fresh unmarked inside later =>
      rcases inductionHypothesis later with ⟨found, here⟩ | ⟨between, here, there⟩
      · exact .inl ⟨found, .fruitless member named fresh unmarked inside here⟩
      · exact .inr ⟨between, .fruitless member named fresh unmarked inside here, there⟩

/-- A search has one answer and enters the same names. -/
theorem unique {pending entered after otherAfter : List String} {answer other : Bool}
    (search : MarkerSearch repository pending entered answer after)
    (again : MarkerSearch repository pending entered other otherAfter) :
    answer = other ∧ after = otherAfter := by
  -- a group is known by its name, so two searches take the same way at each annotation
  have same {first second : Declaration} (firstMember : first ∈ repository.groups)
      (secondMember : second ∈ repository.groups)
      (named : first.qualifiedName = second.qualifiedName) : first = second :=
    eq_of_qualifiedName ((mem_groups_iff _ _).mp firstMember).1
      ((mem_groups_iff _ _).mp secondMember).1 named
  induction search generalizing other otherAfter with
  | exhausted entered =>
    cases again
    exact ⟨rfl, rfl⟩
  | passedOver known _ inductionHypothesis =>
    cases again with
    | passedOver _ later => exact inductionHypothesis later
    | marked member named fresh _ => exact absurd (known _ member named) fresh
    | inherited member named fresh _ _ => exact absurd (known _ member named) fresh
    | fruitless member named fresh _ _ _ => exact absurd (known _ member named) fresh
  | marked member named fresh carried =>
    cases again with
    | passedOver known _ => exact absurd (known _ member named) fresh
    | marked _ _ _ _ => exact ⟨rfl, rfl⟩
    | inherited otherMember otherNamed _ unmarked _ =>
      rw [same otherMember member (otherNamed.trans named.symm), carried] at unmarked
      cases unmarked
    | fruitless otherMember otherNamed _ unmarked _ _ =>
      rw [same otherMember member (otherNamed.trans named.symm), carried] at unmarked
      cases unmarked
  | inherited member named fresh unmarked _ inductionHypothesis =>
    cases again with
    | passedOver known _ => exact absurd (known _ member named) fresh
    | marked otherMember otherNamed _ carried =>
      rw [same otherMember member (otherNamed.trans named.symm), unmarked] at carried
      cases carried
    | inherited otherMember otherNamed _ _ inside =>
      cases same otherMember member (otherNamed.trans named.symm)
      exact inductionHypothesis inside
    | fruitless otherMember otherNamed _ _ inside _ =>
      cases same otherMember member (otherNamed.trans named.symm)
      cases (inductionHypothesis inside).1
  | fruitless member named fresh unmarked _ _ insideHypothesis laterHypothesis =>
    cases again with
    | passedOver known _ => exact absurd (known _ member named) fresh
    | marked otherMember otherNamed _ carried =>
      rw [same otherMember member (otherNamed.trans named.symm), unmarked] at carried
      cases carried
    | inherited otherMember otherNamed _ _ inside =>
      cases same otherMember member (otherNamed.trans named.symm)
      cases (insideHypothesis inside).1
    | fruitless otherMember otherNamed _ _ inside later =>
      cases same otherMember member (otherNamed.trans named.symm)
      obtain ⟨_, rfl⟩ := insideHypothesis inside
      exact laterHypothesis later

/-- A search enters no name twice, and none but those of marker groups. -/
theorem entered_of {pending entered after : List String} {answer : Bool}
    (search : MarkerSearch repository pending entered answer after) (distinct : entered.Nodup)
    (groups : entered ⊆ repository.groups.map (·.qualifiedName)) :
    after.Nodup ∧ after ⊆ repository.groups.map (·.qualifiedName) := by
  -- entering the name of a group that is not among those entered keeps both
  have enter {entered : List String} {name : String} {group : Declaration}
      (member : group ∈ repository.groups) (named : group.qualifiedName = name)
      (fresh : name ∉ entered) (distinct : entered.Nodup)
      (groups : entered ⊆ repository.groups.map (·.qualifiedName)) :
      (name :: entered).Nodup ∧
        name :: entered ⊆ repository.groups.map (·.qualifiedName) :=
    ⟨distinct.cons fresh,
      List.cons_subset.mpr ⟨List.mem_map.mpr ⟨group, member, named⟩, groups⟩⟩
  induction search with
  | exhausted _ => exact ⟨distinct, groups⟩
  | passedOver _ _ inductionHypothesis => exact inductionHypothesis distinct groups
  | marked member named fresh _ => exact enter member named fresh distinct groups
  | inherited member named fresh _ _ inductionHypothesis =>
    obtain ⟨nowDistinct, nowGroups⟩ := enter member named fresh distinct groups
    exact inductionHypothesis nowDistinct nowGroups
  | fruitless member named fresh _ _ _ insideHypothesis laterHypothesis =>
    obtain ⟨nowDistinct, nowGroups⟩ := enter member named fresh distinct groups
    obtain ⟨thenDistinct, thenGroups⟩ := insideHypothesis nowDistinct nowGroups
    exact laterHypothesis thenDistinct thenGroups

end MarkerSearch

/-- From whatever names have been entered the search ends, with the answer that the walk over all
that is pending gives. -/
theorem exists_markerSearch (pending : List String) (unvisited : List Declaration)
    (entered : List String) (unenteredGroups : unvisited = unentered repository.groups entered) :
    ∃ after, MarkerSearch repository pending entered (leadsToMarker pending unvisited) after := by
  induction pending, unvisited using leadsToMarker.induct generalizing entered with
  | case1 unvisited =>
    rw [leadsToMarker]
    exact ⟨entered, .exhausted entered⟩
  | case2 unvisited name rest missing inductionHypothesis =>
    subst unenteredGroups
    obtain ⟨after, later⟩ := inductionHypothesis entered rfl
    rw [leadsToMarker_of_missing missing]
    refine ⟨after, .passedOver (fun group member named => ?_) later⟩
    by_contra fresh
    have found := (find?_unentered_eq_some_iff repository.distinct_groups entered name
      group).mpr ⟨member, named, fresh⟩
    cases missing.symm.trans found
  | case3 unvisited name rest group found _ inductionHypothesis =>
    subst unenteredGroups
    obtain ⟨member, named, fresh⟩ :=
      (find?_unentered_eq_some_iff repository.distinct_groups entered name group).mp found
    rw [leadsToMarker_of_found found]
    cases carried : group.marker.isSome with
    | true => exact ⟨_, .marked member named fresh carried⟩
    | false =>
      rw [Bool.false_or]
      obtain ⟨after, onwards⟩ :=
        inductionHypothesis (name :: entered) (without_unentered _ _ _)
      rcases onwards.of_append with ⟨answered, inside⟩ | ⟨between, inside, later⟩
      · rw [answered]
        exact ⟨after, .inherited member named fresh carried inside⟩
      · exact ⟨after, .fruitless member named fresh carried inside later⟩

/-! ### The marker in effect -/

/-- What marker a declaration has in effect, told by paths of annotations. -/
structure MarkerByPaths (repository : Repository) (declaration : Declaration)
    (marker? : Option Marker) : Prop where
  /-- The own marker of a declaration is in effect. -/
  own : ∀ marker, declaration.marker = some marker → marker? = some marker
  /-- Without one the plain marker is in effect exactly where a path leads to a marked group. -/
  inherited : declaration.marker = none →
    (marker? = some .plain ↔ repository.LeadsToMarkedGroup declaration)
  /-- Otherwise there is no marker in effect. -/
  unmarked : declaration.marker = none → ¬ repository.LeadsToMarkedGroup declaration →
    marker? = none
  /-- The search of a declaration without a marker ends. It has one answer, which says whether there
  is a marker in effect, and it enters no group twice. -/
  ends : ∃ answer entered,
    MarkerSearch repository declaration.annotations [] answer entered ∧
      (∀ other otherEntered,
        MarkerSearch repository declaration.annotations [] other otherEntered →
          other = answer ∧ otherEntered = entered) ∧
      (declaration.marker = none → marker? = if answer then some .plain else none) ∧
      entered.Nodup ∧ entered ⊆ repository.groups.map (·.qualifiedName)

/-- The marker in effect is told by paths of annotations, on every annotation graph. -/
theorem markerByPaths_markerOf? (repository : Repository) (declaration : Declaration) :
    MarkerByPaths repository declaration (repository.markerOf? declaration) := by
  have leads := leadsToMarker_annotations_iff repository declaration
  have effect : declaration.marker = none → repository.markerOf? declaration =
      if leadsToMarker declaration.annotations repository.groups then some .plain else none := by
    intro without
    rw [markerOf?, without]
  obtain ⟨entered, search⟩ := exists_markerSearch declaration.annotations repository.groups []
    (unentered_nil repository.groups).symm
  refine ⟨fun marker carried => ?_, fun without => ?_, fun without nowhere => ?_,
    _, entered, search, fun other otherEntered again => again.unique search, effect,
    search.entered_of List.nodup_nil (List.nil_subset _)⟩
  · rw [markerOf?, carried]
  · rw [effect without, ← leads]
    cases leadsToMarker declaration.annotations repository.groups <;> simp
  · rw [effect without, if_neg (leads.not.mpr nowhere)]

end ValueGen.Repository
