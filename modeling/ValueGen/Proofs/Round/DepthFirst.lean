/-
This file says in what order a round comes to the declarations that it deals with. The depth-first
preorder lists each input, followed by what comes from its members, before the next input; it goes
around no cycle, and it lists a declaration once for each way to it. A round comes to each
declaration once, where the preorder lists it first: what is behind a declaration that the walk
passes over has been listed before. In its recursive form the walk is a loop over declarations that
walks through the members of a group before it goes to the next one, and what it has seen, the
tasks and the errors are shared by all loops that are open; it ends on every annotation graph.
-/

import Mathlib.Data.List.Nodup
import ValueGen.Proofs.Round.Coverage

namespace ValueGen.Repository

variable {repository : Repository}

/-! ### What a round comes to -/

/-- A declaration is reached from some inputs if it is one of them, or if it is annotated with a
marker group that is reached. -/
inductive ReachedFrom (repository : Repository) (inputs : List Declaration) : Declaration → Prop
  | input {declaration : Declaration} (member : declaration ∈ inputs) :
    ReachedFrom repository inputs declaration
  | member {declaration group : Declaration} (reached : ReachedFrom repository inputs group)
    (isGroup : group.kind = .markerGroup)
    (annotated : declaration ∈ repository.annotatedWith group.qualifiedName) :
    ReachedFrom repository inputs declaration

/-- A round deals with what is reached from its inputs by going from marker groups to what is
annotated with them. -/
theorem mem_dispatch_iff_reachedFrom (inputs : List repository.Member)
    (declaration : Declaration) :
    declaration ∈ repository.dispatch inputs ↔
      ReachedFrom repository inputs.unattach declaration := by
  have known : ∀ input ∈ inputs.unattach, input ∈ repository.declarations :=
    repository.unattach_subset inputs
  rw [mem_dispatch_iff]
  constructor
  · intro reached
    induction reached with
    | seed member named => exact .input (mem_of_qualifiedName_mem known member named)
    | @step declaration group _ member named inductionHypothesis =>
      have inside : declaration ∈ repository.membersOf group :=
        mem_of_qualifiedName_mem (fun other inside => ((mem_membersOf_iff _ _ _).mp inside).2.1)
          member named
      obtain ⟨isGroup, annotated⟩ := (mem_membersOf_iff _ _ _).mp inside
      exact .member inductionHypothesis isGroup ((mem_annotatedWith_iff _ _ _).mpr annotated)
  · intro reached
    induction reached with
    | input member => exact .seed (known _ member) (List.mem_map_of_mem member)
    | @member declaration group _ isGroup annotated inductionHypothesis =>
      have inside := (mem_annotatedWith_iff _ _ _).mp annotated
      refine .step inductionHypothesis inside.1 (List.mem_map_of_mem ?_)
      exact (mem_membersOf_iff _ _ _).mpr ⟨isGroup, inside⟩

/-! ### The preorder -/

theorem length_erase_lt {declarations : List Declaration} {declaration : Declaration}
    (member : declaration ∈ declarations) :
    (declarations.erase declaration).length < declarations.length := by
  rw [List.length_erase_of_mem member]
  exact Nat.sub_lt (List.length_pos_of_mem member) Nat.one_pos

/-- The depth-first preorder from some declarations: each of them, followed by what comes from its
members, before the next one. A declaration that is on the way already is left out; `offWay` are
those that are not. -/
def preorder (repository : Repository) (pending offWay : List Declaration) : List Declaration :=
  match pending with
  | [] => []
  | declaration :: rest =>
    (if onward : declaration ∈ offWay then
      have := length_erase_lt onward
      declaration ::
        preorder repository (repository.membersOf declaration) (offWay.erase declaration)
    else []) ++ preorder repository rest offWay
termination_by (offWay.length, pending.length)

theorem preorder_of_onward {declaration : Declaration} {offWay : List Declaration}
    (onward : declaration ∈ offWay) (rest : List Declaration) :
    repository.preorder (declaration :: rest) offWay =
      declaration :: (repository.preorder (repository.membersOf declaration)
        (offWay.erase declaration) ++ repository.preorder rest offWay) := by
  rw [preorder, dif_pos onward, List.cons_append]

theorem preorder_of_onWay {declaration : Declaration} {offWay : List Declaration}
    (onWay : declaration ∉ offWay) (rest : List Declaration) :
    repository.preorder (declaration :: rest) offWay = repository.preorder rest offWay := by
  rw [preorder, dif_neg onWay, List.nil_append]

theorem mem_of_mem_preorder {pending offWay : List Declaration} {declaration : Declaration}
    (listed : declaration ∈ repository.preorder pending offWay) : declaration ∈ offWay := by
  induction pending, offWay using preorder.induct repository with
  | case1 offWay =>
    rw [preorder] at listed
    cases listed
  | case2 offWay first rest insideHypothesis laterHypothesis =>
    by_cases onward : first ∈ offWay
    · rw [preorder_of_onward onward, List.mem_cons, List.mem_append] at listed
      rcases listed with rfl | inside | later
      · exact onward
      · exact List.mem_of_mem_erase (insideHypothesis onward inside)
      · exact laterHypothesis later
    · rw [preorder_of_onWay onward] at listed
      exact laterHypothesis listed

/-! ### The walk and the preorder -/

/-- Walking through two lists is walking through the first and then, past what that came to, through
the second. -/
theorem visit_append (repository : Repository) (first second undispatched : List Declaration) :
    repository.visit (first ++ second) undispatched =
      repository.visit first undispatched ++
        repository.visit second (unentered undispatched
          ((repository.visit first undispatched).map (·.qualifiedName))) := by
  induction first, undispatched using visit.induct repository with
  | case1 undispatched =>
    simp only [visit, List.nil_append, List.map_nil, unentered_nil]
  | case2 undispatched declaration rest missing inductionHypothesis =>
    rw [List.cons_append, visit_of_missing missing, visit_of_missing missing,
      inductionHypothesis]
  | case3 undispatched declaration rest dispatched found _ inductionHypothesis =>
    have named : dispatched.qualifiedName = declaration.qualifiedName := by
      simpa using List.find?_some found
    rw [List.cons_append, visit_of_found found, visit_of_found found, ← List.append_assoc,
      inductionHypothesis, List.cons_append, List.map_cons, named, unentered_without]

/-- Declarations of the repository are left over from a list by name if they are not listed. -/
theorem mem_unentered_map_iff {declarations walked : List Declaration}
    (known : declarations ⊆ repository.declarations)
    (walkedKnown : walked ⊆ repository.declarations)
    (declaration : Declaration) :
    declaration ∈ unentered declarations (walked.map (·.qualifiedName)) ↔
      declaration ∈ declarations ∧ declaration ∉ walked := by
  rw [unentered, List.mem_filter, decide_eq_true_eq]
  refine and_congr_right fun member => not_congr ⟨fun named => ?_, List.mem_map_of_mem⟩
  exact mem_of_qualifiedName_mem (fun _ found => walkedKnown found) (known member) named

/-- What is known where a walk stands: which declarations are off the way and which of those have
not been dispatched, and that nothing behind a declaration that is off the way and has been
dispatched is left. -/
structure WalkState (repository : Repository) (offWay undispatched : List Declaration) :
    Prop where
  offWay_sublist : offWay.Sublist repository.declarations
  undispatched_sublist : undispatched.Sublist repository.declarations
  off : undispatched ⊆ offWay
  finished : ∀ declaration ∈ offWay, declaration ∉ undispatched →
    ∀ member ∈ repository.membersOf declaration, member ∉ undispatched

namespace WalkState

variable {offWay undispatched : List Declaration} {declaration : Declaration}

theorem start (repository : Repository) :
    WalkState repository repository.declarations repository.declarations where
  offWay_sublist := .refl _
  undispatched_sublist := .refl _
  off := List.Subset.refl _
  finished _ known left := absurd known left

theorem distinct (state : WalkState repository offWay undispatched) :
    (undispatched.map (·.qualifiedName)).Nodup :=
  repository.distinct.sublist (state.undispatched_sublist.map _)

theorem find?_eq_some (state : WalkState repository offWay undispatched)
    (left : declaration ∈ undispatched) :
    undispatched.find? (·.qualifiedName = declaration.qualifiedName) = some declaration :=
  (find?_name_eq_some_iff state.distinct _ _).mpr ⟨left, rfl⟩

theorem find?_eq_none (state : WalkState repository offWay undispatched)
    (known : declaration ∈ repository.declarations) (gone : declaration ∉ undispatched) :
    undispatched.find? (·.qualifiedName = declaration.qualifiedName) = none := by
  rw [List.find?_eq_none]
  intro other left named
  refine gone (eq_of_qualifiedName (state.undispatched_sublist.subset left) known ?_ ▸ left)
  simpa using named

theorem mem_erase_iff (state : WalkState repository offWay undispatched)
    (other : Declaration) :
    other ∈ offWay.erase declaration ↔ other ≠ declaration ∧ other ∈ offWay :=
  (state.offWay_sublist.nodup repository.nodup_declarations).mem_erase_iff

theorem mem_without_iff (state : WalkState repository offWay undispatched)
    (left : declaration ∈ undispatched) (other : Declaration) :
    other ∈ without undispatched declaration.qualifiedName ↔
      other ∈ undispatched ∧ other ≠ declaration := by
  rw [Repository.mem_without_iff]
  refine and_congr_right fun still => not_congr ⟨fun named => ?_, congrArg _⟩
  exact eq_of_qualifiedName (state.undispatched_sublist.subset still)
    (state.undispatched_sublist.subset left) named

/-- A declaration that is dispatched is on the way while the walk is at its members. -/
theorem enter (state : WalkState repository offWay undispatched)
    (left : declaration ∈ undispatched) :
    WalkState repository (offWay.erase declaration)
      (without undispatched declaration.qualifiedName) where
  offWay_sublist := List.erase_sublist.trans state.offWay_sublist
  undispatched_sublist := List.filter_sublist.trans state.undispatched_sublist
  off other remaining := by
    obtain ⟨still, differ⟩ := (state.mem_without_iff left other).mp remaining
    exact (state.mem_erase_iff other).mpr ⟨differ, state.off still⟩
  finished other offTheWay gone member isMember remaining := by
    obtain ⟨differ, offTheWay⟩ := (state.mem_erase_iff other).mp offTheWay
    have dispatched : other ∉ undispatched := fun still =>
      gone ((state.mem_without_iff left other).mpr ⟨still, differ⟩)
    exact state.finished other offTheWay dispatched member isMember
      ((state.mem_without_iff left member).mp remaining).1

/-- A declaration that has been dispatched can be put on the way as well. -/
theorem erase (state : WalkState repository offWay undispatched)
    (gone : declaration ∉ undispatched) :
    WalkState repository (offWay.erase declaration) undispatched where
  offWay_sublist := List.erase_sublist.trans state.offWay_sublist
  undispatched_sublist := state.undispatched_sublist
  off other left := (state.mem_erase_iff other).mpr
    ⟨fun same => gone (same ▸ left), state.off left⟩
  finished other offTheWay :=
    state.finished other ((state.mem_erase_iff other).mp offTheWay).2

theorem visit_subset (state : WalkState repository offWay undispatched)
    (pending : List Declaration) :
    repository.visit pending undispatched ⊆ undispatched :=
  fun _ walked => ((mem_visit_iff _ _ state.distinct _).mp walked).mem

/-- A walk comes to the pending declarations that are left, and to the members of what it comes
to. -/
theorem mem_visit (state : WalkState repository offWay undispatched)
    {pending : List Declaration} {member : Declaration} (left : member ∈ undispatched)
    (onward : member ∈ pending ∨ ∃ group ∈ repository.visit pending undispatched,
      member ∈ repository.membersOf group) :
    member ∈ repository.visit pending undispatched := by
  rw [mem_visit_iff _ _ state.distinct]
  rcases onward with isPending | ⟨group, walked, isMember⟩
  · exact .seed left (List.mem_map_of_mem isPending)
  · exact .step ((mem_visit_iff _ _ state.distinct _).mp walked) left
      (List.mem_map_of_mem isMember)

/-- When the walk has been at the members of a declaration, nothing behind that declaration is
left. -/
theorem leave (state : WalkState repository offWay undispatched)
    (left : declaration ∈ undispatched) {remaining walked : List Declaration}
    (isRemaining : remaining = without undispatched declaration.qualifiedName)
    (isWalked : walked = repository.visit (repository.membersOf declaration) remaining) :
    WalkState repository offWay (unentered remaining (walked.map (·.qualifiedName))) := by
  subst isRemaining
  have inside := state.enter left
  have walkedLeft := inside.visit_subset (repository.membersOf declaration)
  rw [← isWalked] at walkedLeft
  have known := inside.undispatched_sublist.subset
  have still (other : Declaration) :=
    mem_unentered_map_iff known (fun _ found => known (walkedLeft found)) other
  refine ⟨state.offWay_sublist, List.filter_sublist.trans inside.undispatched_sublist,
    fun other isLeft => ?_, fun other offTheWay gone member isMember isLeft => ?_⟩
  · exact state.off ((state.mem_without_iff left other).mp ((still other).mp isLeft).1).1
  · obtain ⟨memberLeft, unwalked⟩ := (still member).mp isLeft
    by_cases otherLeft : other ∈ undispatched
    · -- the walk has come to it or it is the declaration itself, so it has come to its members
      refine unwalked (isWalked ▸ inside.mem_visit memberLeft ?_)
      by_cases same : other = declaration
      · exact .inl (same ▸ isMember)
      · refine .inr ⟨other, isWalked ▸ ?_, isMember⟩
        by_contra unwalked
        refine gone ((still other).mpr ⟨?_, unwalked⟩)
        exact (state.mem_without_iff left other).mpr ⟨otherLeft, same⟩
    · exact state.finished other offTheWay otherLeft member isMember
        ((state.mem_without_iff left member).mp memberLeft).1

end WalkState

/-- Of what two lists hold, what has not been dispatched is first that of the first list, and then
what the second list holds besides. -/
theorem eraseDups_filter_append {undispatched : List Declaration}
    (known : undispatched ⊆ repository.declarations) (first second : List Declaration) :
    ((first ++ second).filter (· ∈ undispatched)).eraseDups =
      (first.filter (· ∈ undispatched)).eraseDups ++
        (second.filter (· ∈ unentered undispatched
          ((first.filter (· ∈ undispatched)).eraseDups.map (·.qualifiedName)))).eraseDups := by
  have listedKnown : (first.filter (· ∈ undispatched)).eraseDups ⊆ repository.declarations := by
    intro declaration listed
    have member := (List.mem_filter.mp (List.mem_eraseDups.mp listed)).2
    exact known (of_decide_eq_true member)
  rw [List.filter_append, List.eraseDups_append, List.removeAll, List.filter_filter]
  congr 2
  refine List.filter_congr fun declaration _ => ?_
  rw [Bool.eq_iff_iff, Bool.and_eq_true, Bool.not_eq_true', List.elem_eq_mem,
    decide_eq_false_iff_not, decide_eq_true_eq, decide_eq_true_eq,
    mem_unentered_map_iff known listedKnown, List.mem_eraseDups, and_comm]

theorem eraseDups_filter_cons {undispatched : List Declaration}
    (known : undispatched ⊆ repository.declarations) {declaration : Declaration}
    (left : declaration ∈ undispatched) (rest : List Declaration) :
    ((declaration :: rest).filter (· ∈ undispatched)).eraseDups =
      declaration ::
        (rest.filter (· ∈ without undispatched declaration.qualifiedName)).eraseDups := by
  have alone : ([declaration].filter (· ∈ undispatched)).eraseDups = [declaration] := by
    rw [List.filter_cons_of_pos (by simpa using left)]
    rfl
  have split := eraseDups_filter_append known [declaration] rest
  rwa [alone, List.map_singleton, ← without_unentered, unentered_nil] at split

theorem visit_eq_nil {offWay undispatched : List Declaration}
    (state : WalkState repository offWay undispatched) {pending : List Declaration}
    (known : pending ⊆ repository.declarations)
    (gone : ∀ declaration ∈ pending, declaration ∉ undispatched) :
    repository.visit pending undispatched = [] := by
  induction pending with
  | nil => rw [visit]
  | cons declaration rest inductionHypothesis =>
    obtain ⟨here, others⟩ := List.cons_subset.mp known
    obtain ⟨goneHere, goneLater⟩ := List.forall_mem_cons.mp gone
    rw [visit_of_missing (state.find?_eq_none here goneHere)]
    exact inductionHypothesis others goneLater

theorem membersOf_subset (repository : Repository) (declaration : Declaration) :
    repository.membersOf declaration ⊆ repository.declarations :=
  fun _ isMember => ((mem_membersOf_iff _ _ _).mp isMember).2.1

/-- From wherever it stands, a walk comes to what has not been dispatched where the preorder lists
it first. -/
theorem visit_eq_eraseDups (pending offWay : List Declaration) {undispatched : List Declaration}
    (state : WalkState repository offWay undispatched)
    (known : pending ⊆ repository.declarations) :
    repository.visit pending undispatched =
      ((repository.preorder pending offWay).filter (· ∈ undispatched)).eraseDups := by
  induction pending, offWay using preorder.induct repository generalizing undispatched with
  | case1 offWay => rw [visit, preorder, List.filter_nil, List.eraseDups_nil]
  | case2 offWay declaration rest insideHypothesis laterHypothesis =>
    obtain ⟨here, others⟩ := List.cons_subset.mp known
    have members := repository.membersOf_subset declaration
    by_cases left : declaration ∈ undispatched
    · have onward := state.off left
      have inside := insideHypothesis onward (state.enter left) members
      have later := laterHypothesis (state.leave left rfl rfl) others
      have remain := (state.enter left).undispatched_sublist.subset
      rw [visit_of_found (state.find?_eq_some left), visit_append, preorder_of_onward onward,
        eraseDups_filter_cons state.undispatched_sublist.subset left,
        eraseDups_filter_append remain, ← inside, ← later]
    · rw [visit_of_missing (state.find?_eq_none here left), laterHypothesis state others]
      by_cases onward : declaration ∈ offWay
      · -- nothing behind the declaration is left, so what the preorder lists behind it is gone
        have inside := insideHypothesis onward (state.erase left) members
        rw [visit_eq_nil state members (state.finished declaration onward left)] at inside
        have unlisted : (repository.preorder (repository.membersOf declaration)
            (offWay.erase declaration)).filter (· ∈ undispatched) = [] := by
          refine List.eq_nil_iff_forall_not_mem.mpr fun other listed => ?_
          have still := List.mem_eraseDups.mpr listed
          rw [← inside] at still
          cases still
        rw [preorder_of_onward onward, List.filter_cons_of_neg (by simpa using left),
          List.filter_append, unlisted, List.nil_append]
      · rw [preorder_of_onWay onward]

/-- A round comes to each declaration where the preorder lists it first. -/
theorem dispatch_eq_eraseDups (inputs : List repository.Member) :
    repository.dispatch inputs =
      (repository.preorder inputs.unattach repository.declarations).eraseDups := by
  have all : (repository.preorder inputs.unattach repository.declarations).filter
      (· ∈ repository.declarations) =
        repository.preorder inputs.unattach repository.declarations :=
    List.filter_eq_self.mpr fun _ listed => decide_eq_true (mem_of_mem_preorder listed)
  rw [dispatch, visit_eq_eraseDups inputs.unattach _ (.start repository)
    (repository.unattach_subset inputs), all]

/-! ### The walk in recursive form -/

/-- What a walk has done: the names it has seen, the latest one first, and the tasks and the errors
in order. -/
structure DispatchState where
  seen : List String
  tasks : List Declaration
  errors : List ErrorReport

/-- The state after a walk has come to some more declarations. -/
def DispatchState.after (state : DispatchState) (walked : List Declaration) : DispatchState where
  seen := (walked.map (·.qualifiedName)).reverse ++ state.seen
  tasks := state.tasks ++ walked.filter (·.kind = .interface)
  errors := state.errors ++ (walked.filter (·.kind = .other)).map fun declaration =>
    ⟨declaration.qualifiedName, .notAnInterface⟩

theorem DispatchState.after_nil (state : DispatchState) : state.after [] = state := by
  simp [after]

theorem DispatchState.after_append (state : DispatchState) (first second : List Declaration) :
    state.after (first ++ second) = (state.after first).after second := by
  simp [after]

/-- The walk over some declarations, from one state to another: it passes over what it has seen,
makes a task of an interface, walks through the members of a marker group before it goes on, and
reports any other declaration. -/
inductive Dispatches (repository : Repository) :
    List Declaration → DispatchState → DispatchState → Prop
  | done (state : DispatchState) : Dispatches repository [] state state
  | seen {declaration : Declaration} {rest : List Declaration} {state after : DispatchState}
    (known : declaration.qualifiedName ∈ state.seen)
    (later : Dispatches repository rest state after) :
    Dispatches repository (declaration :: rest) state after
  | task {declaration : Declaration} {rest : List Declaration} {state after : DispatchState}
    (fresh : declaration.qualifiedName ∉ state.seen) (kind : declaration.kind = .interface)
    (later : Dispatches repository rest
      { state with
        seen := declaration.qualifiedName :: state.seen
        tasks := state.tasks ++ [declaration] } after) :
    Dispatches repository (declaration :: rest) state after
  | group {declaration : Declaration} {rest : List Declaration}
    {state between after : DispatchState} (fresh : declaration.qualifiedName ∉ state.seen)
    (kind : declaration.kind = .markerGroup)
    (inside : Dispatches repository (repository.annotatedWith declaration.qualifiedName)
      { state with seen := declaration.qualifiedName :: state.seen } between)
    (later : Dispatches repository rest between after) :
    Dispatches repository (declaration :: rest) state after
  | rejected {declaration : Declaration} {rest : List Declaration} {state after : DispatchState}
    (fresh : declaration.qualifiedName ∉ state.seen) (kind : declaration.kind = .other)
    (later : Dispatches repository rest
      { state with
        seen := declaration.qualifiedName :: state.seen
        errors := state.errors ++ [⟨declaration.qualifiedName, .notAnInterface⟩] } after) :
    Dispatches repository (declaration :: rest) state after

namespace Dispatches

/-- A walk over two lists is one over the first and then one over the second. -/
theorem of_append {first second : List Declaration} {state after : DispatchState}
    (walk : Dispatches repository (first ++ second) state after) :
    ∃ between, Dispatches repository first state between ∧
      Dispatches repository second between after := by
  induction first generalizing state with
  | nil => exact ⟨state, .done state, walk⟩
  | cons declaration rest inductionHypothesis =>
    rw [List.cons_append] at walk
    cases walk with
    | seen known later =>
      obtain ⟨between, here, there⟩ := inductionHypothesis later
      exact ⟨between, .seen known here, there⟩
    | task fresh kind later =>
      obtain ⟨between, here, there⟩ := inductionHypothesis later
      exact ⟨between, .task fresh kind here, there⟩
    | group fresh kind inside later =>
      obtain ⟨between, here, there⟩ := inductionHypothesis later
      exact ⟨between, .group fresh kind inside here, there⟩
    | rejected fresh kind later =>
      obtain ⟨between, here, there⟩ := inductionHypothesis later
      exact ⟨between, .rejected fresh kind here, there⟩

/-- A walk ends in one state. -/
theorem unique {pending : List Declaration} {state after other : DispatchState}
    (walk : Dispatches repository pending state after)
    (again : Dispatches repository pending state other) : other = after := by
  induction walk generalizing other with
  | done state =>
    cases again
    rfl
  | seen known _ inductionHypothesis =>
    cases again with
    | seen _ later => exact inductionHypothesis later
    | task fresh _ _ => exact absurd known fresh
    | group fresh _ _ _ => exact absurd known fresh
    | rejected fresh _ _ => exact absurd known fresh
  | task fresh kind _ inductionHypothesis =>
    cases again with
    | seen known _ => exact absurd known fresh
    | task _ _ later => exact inductionHypothesis later
    | group _ otherKind _ _ => cases kind.symm.trans otherKind
    | rejected _ otherKind _ => cases kind.symm.trans otherKind
  | group fresh kind _ _ insideHypothesis laterHypothesis =>
    cases again with
    | seen known _ => exact absurd known fresh
    | task _ otherKind _ => cases kind.symm.trans otherKind
    | group _ _ inside later =>
      cases insideHypothesis inside
      exact laterHypothesis later
    | rejected _ otherKind _ => cases kind.symm.trans otherKind
  | rejected fresh kind _ inductionHypothesis =>
    cases again with
    | seen known _ => exact absurd known fresh
    | task _ otherKind _ => cases kind.symm.trans otherKind
    | group _ otherKind _ _ => cases kind.symm.trans otherKind
    | rejected _ _ later => exact inductionHypothesis later

end Dispatches

/-- From whatever it has seen the walk ends, and it comes to what the walk over all that is pending
comes to. -/
theorem dispatches_visit (pending undispatched : List Declaration) (state : DispatchState)
    (unseen : undispatched = unentered repository.declarations state.seen)
    (known : pending ⊆ repository.declarations) :
    Dispatches repository pending state (state.after (repository.visit pending undispatched)) := by
  induction pending, undispatched using visit.induct repository generalizing state with
  | case1 undispatched =>
    rw [visit, state.after_nil]
    exact .done state
  | case2 undispatched declaration rest missing inductionHypothesis =>
    subst unseen
    obtain ⟨here, others⟩ := List.cons_subset.mp known
    rw [visit_of_missing missing]
    refine .seen ?_ (inductionHypothesis state rfl others)
    by_contra fresh
    have found := (find?_unentered_eq_some_iff repository.distinct state.seen _ declaration).mpr
      ⟨here, rfl, fresh⟩
    cases missing.symm.trans found
  | case3 undispatched declaration rest dispatched found _ inductionHypothesis =>
    subst unseen
    obtain ⟨here, others⟩ := List.cons_subset.mp known
    obtain ⟨member, named, fresh⟩ :=
      (find?_unentered_eq_some_iff repository.distinct state.seen _ dispatched).mp found
    obtain rfl := eq_of_qualifiedName here member named.symm
    have onwards := inductionHypothesis (state.after [declaration]) (without_unentered _ _ _)
      (List.append_subset.mpr ⟨repository.membersOf_subset declaration, others⟩)
    rw [← DispatchState.after_append, List.singleton_append, ← visit_of_found found] at onwards
    cases kind : declaration.kind with
    | interface =>
      have noMembers : repository.membersOf declaration = [] := if_neg (by rw [kind]; decide)
      rw [noMembers, List.nil_append] at onwards
      refine .task fresh kind ?_
      simpa [DispatchState.after, kind] using onwards
    | markerGroup =>
      obtain ⟨between, inside, later⟩ := onwards.of_append
      have members : repository.membersOf declaration =
          repository.annotatedWith declaration.qualifiedName := if_pos kind
      rw [members] at inside
      refine .group fresh kind ?_ later
      simpa [DispatchState.after, kind] using inside
    | other =>
      have noMembers : repository.membersOf declaration = [] := if_neg (by rw [kind]; decide)
      rw [noMembers, List.nil_append] at onwards
      refine .rejected fresh kind ?_
      simpa [DispatchState.after, kind] using onwards

end ValueGen.Repository

namespace ValueGen.Round

open Repository

/-! ### The whole round -/

/-- A report says of the rejected declarations, in order, that they are no interfaces, and says so
of nothing else. -/
theorem filter_errors_report (repository : Repository) (suffix : String)
    (inputs : List repository.Member) (answers : List (Except EmissionError Unit)) :
    ((RoundPlan.make repository suffix inputs).report answers).errors.filter
        (·.error = .notAnInterface) = rejections repository inputs := by
  obtain ⟨failures, refusals, split, failed, refused⟩ :=
    (RoundPlan.make repository suffix inputs).errors_report answers
  have noFailure : failures.filter (·.error = .notAnInterface) = [] := by
    rw [List.filter_eq_nil_iff]
    intro failure member isRejection
    exact RoundPlan.error_ne_of_failed_mem_results ((failed failure).mp member)
      (of_decide_eq_true isRejection)
  have noRefusal : refusals.filter (·.error = .notAnInterface) = [] := by
    rw [List.filter_eq_nil_iff]
    intro refusal member isRejection
    obtain ⟨task, cause, rfl⟩ := refused refusal member
    cases of_decide_eq_true isRejection
  have rejected : (rejections repository inputs).filter (·.error = .notAnInterface) =
      rejections repository inputs := by
    rw [rejections, List.filter_map]
    exact congrArg _ (List.filter_eq_self.mpr fun _ _ => rfl)
  rw [split, List.filter_append, List.filter_append, noFailure, noRefusal, List.append_nil,
    List.append_nil]
  exact rejected

/-- What a round over some inputs deals with, in what order, and what its report says of it. -/
structure DepthFirst (repository : Repository) (suffix : String) (inputs : List repository.Member)
    (report : RoundReport) : Prop where
  /-- The walk ends, in one state: it has seen the dispatched declarations in order, and has made
  the tasks and the errors of the round. -/
  ends : ∃ after, Dispatches repository inputs.unattach ⟨[], [], []⟩ after ∧
    (∀ other, Dispatches repository inputs.unattach ⟨[], [], []⟩ other → other = after) ∧
    after.seen.reverse = (repository.dispatch inputs).map (·.qualifiedName) ∧
    after.tasks = repository.tasks inputs ∧ after.errors = rejections repository inputs
  /-- The dispatched declarations are those that are reached from the inputs by going from marker
  groups to what is annotated with them. -/
  closure : ∀ declaration,
    declaration ∈ repository.dispatch inputs ↔
      ReachedFrom repository inputs.unattach declaration
  /-- Each of them is dispatched once. -/
  once : (repository.dispatch inputs).Nodup
  /-- They are in the order in which the depth-first preorder lists them first. -/
  order : repository.dispatch inputs =
    (repository.preorder inputs.unattach repository.declarations).eraseDups
  /-- The tasks are the interfaces among them, in order, and each task has one result, in order. -/
  tasks : repository.tasks inputs =
      (repository.dispatch inputs).filter (·.kind = .interface) ∧
    List.Forall₂
      (fun task result => RoundPlan.Settled task
        ((Resolver.direct repository suffix).synthesize task).run result)
      (repository.tasks inputs) (RoundPlan.make repository suffix inputs).results
  /-- The errors of the report that tell of other shapes are those of the declarations among them
  that are neither interfaces nor marker groups, in order. -/
  errors : report.errors.filter (·.error = .notAnInterface) =
    ((repository.dispatch inputs).filter (·.kind = .other)).map fun declaration =>
      ⟨declaration.qualifiedName, .notAnInterface⟩

/-- A round deals with its inputs depth first, whatever the annotation graph and whatever the
emitter does. -/
theorem depthFirst_runWith (repository : Repository) (config : Config) (now : String)
    (inputs : List repository.Member) {State : Type} (emit : Emitter (StateM State))
    (state : State) :
    DepthFirst repository config.suffix inputs
      ((runWith repository config now inputs emit).run state).1 := by
  have walk := dispatches_visit inputs.unattach repository.declarations ⟨[], [], []⟩
    (unentered_nil repository.declarations).symm (repository.unattach_subset inputs)
  obtain ⟨answers, _, same⟩ := exists_answers repository config now inputs emit state
  refine ⟨⟨_, walk, fun other again => walk.unique again, ?_, rfl, rfl⟩,
    mem_dispatch_iff_reachedFrom inputs, nodup_dispatch repository inputs,
    dispatch_eq_eraseDups inputs,
    ⟨rfl, RoundPlan.settled_make repository config.suffix inputs⟩, ?_⟩
  · rw [DispatchState.after, List.append_nil, List.reverse_reverse]
    rfl
  · rw [same, filter_errors_report]
    rfl

/-- A group that is given twice, an interface that is a member of it, and a group that is on a
cycle. -/
def cyclicInputs : List (Repository.Member ⟨cyclicGroups, by decide⟩) :=
  [⟨cyclicGroups[2], by decide⟩, ⟨cyclicGroups[4], by decide⟩, ⟨cyclicGroups[1], by decide⟩,
    ⟨cyclicGroups[2], by decide⟩]

theorem depthFirst_runWith_cyclicInputs :
    DepthFirst ⟨cyclicGroups, by decide⟩ "POJO" cyclicInputs
      ((runWith ⟨cyclicGroups, by decide⟩ .default "" cyclicInputs Emitter.inMemory).run []).1 :=
  depthFirst_runWith ⟨cyclicGroups, by decide⟩ .default "" cyclicInputs Emitter.inMemory []

/-- The preorder lists a declaration once for each way to it, and the round deals with it once. -/
example :
    (preorder ⟨cyclicGroups, by decide⟩ cyclicInputs.unattach cyclicGroups).map (·.name) =
        ["Third", "Diamond", "Twice", "Twice", "Twice", "Second", "First", "Diamond", "Third",
          "Diamond", "Twice", "Twice", "Class", "Third", "Diamond", "Twice", "Twice"] ∧
      (dispatch ⟨cyclicGroups, by decide⟩ cyclicInputs).map (·.name) =
        ["Third", "Diamond", "Twice", "Second", "First", "Class"] := by
  refine ⟨?_, ?_⟩
  · cbv
  · decide +kernel

end ValueGen.Round
