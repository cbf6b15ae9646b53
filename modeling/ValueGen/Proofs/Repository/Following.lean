/-
This file follows the links between declarations one by one, upwards to what a declaration is nested
in and downwards to what is nested in it, whatever texts the links are made of. The ways are
relations that no measure bounds; that they end is proved. Upwards a name gets shorter with each
link, so none comes again. Downwards a declaration can only be reached through the one declaration
that its own link leads to, so it is reached once at most.
-/

import Mathlib.Data.List.Perm.Subperm
import ValueGen.Proofs.Repository.Ancestry

namespace ValueGen.Repository

variable {repository : Repository}

/-! ### Upwards -/

/-- A chain starts at a declaration and goes on to what it is nested in, as long as the repository
holds the next one. -/
inductive Climbs (repository : Repository) : Declaration → List Declaration → Prop
  | outermost {declaration : Declaration} (last : repository.enclosingOf? declaration = none) :
    Climbs repository declaration [declaration]
  | nested {declaration enclosing : Declaration} {chain : List Declaration}
    (next : repository.enclosingOf? declaration = some enclosing)
    (further : Climbs repository enclosing chain) :
    Climbs repository declaration (declaration :: chain)

/-- There is exactly one chain from each declaration. -/
theorem climbs_iff (declaration : Declaration) (chain : List Declaration) :
    repository.Climbs declaration chain ↔ chain = repository.ancestry declaration := by
  constructor
  · intro climbs
    induction climbs with
    | outermost last => rw [ancestry_of_outermost last]
    | nested next _ inductionHypothesis => rw [ancestry_of_nested next, inductionHypothesis]
  · rintro rfl
    induction declaration using nestingInduction repository with
    | outermost declaration last =>
      rw [ancestry_of_outermost last]
      exact .outermost last
    | nested declaration enclosing next inductionHypothesis =>
      rw [ancestry_of_nested next]
      exact .nested next inductionHypothesis

theorem length_le_of_mem_ancestry {declaration around : Declaration}
    (above : around ∈ repository.ancestry declaration) :
    around.qualifiedName.length ≤ declaration.qualifiedName.length := by
  induction declaration using nestingInduction repository with
  | outermost declaration last =>
    rw [ancestry_of_outermost last, List.mem_singleton] at above
    exact Nat.le_of_eq (congrArg (·.qualifiedName.length) above)
  | nested declaration enclosing next inductionHypothesis =>
    rw [ancestry_of_nested next] at above
    rcases List.mem_cons.mp above with rfl | further
    · exact Nat.le_refl _
    · exact Nat.le_trans (inductionHypothesis further) (Nat.le_of_lt (length_of_enclosingOf? next))

/-- On the way up no name comes again. -/
theorem nodup_names_ancestry (repository : Repository) (declaration : Declaration) :
    ((repository.ancestry declaration).map (·.qualifiedName)).Nodup := by
  induction declaration using nestingInduction repository with
  | outermost declaration last =>
    rw [ancestry_of_outermost last]
    exact List.nodup_singleton _
  | nested declaration enclosing next inductionHypothesis =>
    rw [ancestry_of_nested next, List.map_cons, List.nodup_cons]
    refine ⟨fun again => ?_, inductionHypothesis⟩
    obtain ⟨around, above, same⟩ := List.mem_map.mp again
    have shorter := length_le_of_mem_ancestry above
    have longer := length_of_enclosingOf? next
    rw [same] at shorter
    omega

/-- Above a declaration there are no more than the repository holds. -/
theorem length_ancestry_le (repository : Repository) (declaration : Declaration) :
    (repository.ancestry declaration).length ≤ repository.size + 1 := by
  cases around : repository.enclosingOf? declaration with
  | none =>
    rw [ancestry_of_outermost around]
    exact Nat.le_add_left 1 _
  | some enclosing =>
    rw [ancestry_of_nested around, List.length_cons]
    have within : repository.ancestry enclosing ⊆ repository.declarations := fun _ above =>
      mem_declarations_of_mem_ancestry (mem_of_enclosingOf? around).1 above
    have distinct := (repository.nodup_names_ancestry enclosing).of_map
    exact Nat.succ_le_succ (List.subperm_of_subset distinct within).length_le

theorem mem_ancestry_trans {inside between around : Declaration}
    (lower : between ∈ repository.ancestry inside) (upper : around ∈ repository.ancestry between) :
    around ∈ repository.ancestry inside := by
  obtain ⟨below, above, split⟩ := List.append_of_mem lower
  rw [ancestry_of_split split] at upper
  rw [split]
  exact List.mem_append_right below upper

/-- A way up leads through one declaration at most that is nested in a given name. -/
theorem eq_of_mem_ancestry_of_enclosing {inside first second : Declaration} {name : String}
    (firstAbove : first ∈ repository.ancestry inside)
    (secondAbove : second ∈ repository.ancestry inside)
    (firstNested : first.enclosing = some name) (secondNested : second.enclosing = some name) :
    first = second := by
  -- what is above a declaration nested in the name has no longer name than the name itself
  have higher : ∀ {lower upper enclosing : Declaration}, lower.enclosing = some name →
      upper.enclosing = some name → repository.enclosingOf? lower = some enclosing →
      upper ∉ repository.ancestry enclosing := by
    intro lower upper enclosing lowerNested upperNested next above
    have named := (mem_of_enclosingOf? next).2
    rw [lowerNested] at named
    have shorter := length_le_of_mem_ancestry above
    have longer := Declaration.length_qualifiedName upperNested
    rw [Option.some.inj named] at longer
    omega
  induction inside using nestingInduction repository with
  | outermost inside last =>
    rw [ancestry_of_outermost last, List.mem_singleton] at firstAbove secondAbove
    rw [firstAbove, secondAbove]
  | nested inside enclosing next inductionHypothesis =>
    rw [ancestry_of_nested next] at firstAbove secondAbove
    rcases List.mem_cons.mp firstAbove with rfl | firstFurther
    · rcases List.mem_cons.mp secondAbove with same | secondFurther
      · exact same.symm
      · exact absurd secondFurther (higher firstNested secondNested next)
    · rcases List.mem_cons.mp secondAbove with rfl | secondFurther
      · exact absurd firstFurther (higher secondNested firstNested next)
      · exact inductionHypothesis firstFurther secondFurther

/-! ### Downwards -/

/-- A walk over declarations visits each of them, then all that is nested in it, and then goes on to
the next one. -/
inductive Descends (repository : Repository) : List Declaration → List Declaration → Prop
  | done : Descends repository [] []
  | visit {declaration : Declaration} {rest below beside : List Declaration}
    (inside : Descends repository (repository.nestedIn declaration) below)
    (further : Descends repository rest beside) :
    Descends repository (declaration :: rest) (declaration :: (below ++ beside))

theorem Descends.unique {pending first second : List Declaration}
    (isFirst : repository.Descends pending first) (isSecond : repository.Descends pending second) :
    first = second := by
  induction isFirst generalizing second with
  | done =>
    cases isSecond
    rfl
  | visit _ _ insideHypothesis furtherHypothesis =>
    cases isSecond with
    | visit inside further => rw [insideHypothesis inside, furtherHypothesis further]

theorem length_of_mem_nestedIn {declaration inner : Declaration}
    (found : inner ∈ repository.nestedIn declaration) :
    declaration.qualifiedName.length < inner.qualifiedName.length ∧
      inner.qualifiedName.length ≤ repository.longest :=
  have member := (repository.mem_nestedIn_iff declaration inner).mp found
  ⟨Declaration.length_qualifiedName member.2, length_le_longest member.1⟩

/-- What holds of a declaration once it holds of all that is nested in it holds of every
declaration. -/
@[elab_as_elim]
theorem insideInduction (repository : Repository) {motive : Declaration → Prop}
    (around : ∀ declaration, (∀ inner ∈ repository.nestedIn declaration, motive inner) →
      motive declaration) (declaration : Declaration) : motive declaration :=
  around declaration fun inner found =>
    have := length_of_mem_nestedIn found
    insideInduction repository around inner
termination_by repository.longest + 1 - declaration.qualifiedName.length

theorem exists_descends_of_each {pending : List Declaration}
    (each : ∀ declaration ∈ pending,
      ∃ below, repository.Descends (repository.nestedIn declaration) below) :
    ∃ visited, repository.Descends pending visited := by
  induction pending with
  | nil => exact ⟨[], .done⟩
  | cons declaration rest inductionHypothesis =>
    obtain ⟨⟨below, inside⟩, others⟩ := List.forall_mem_cons.mp each
    obtain ⟨beside, further⟩ := inductionHypothesis others
    exact ⟨declaration :: (below ++ beside), .visit inside further⟩

/-- Every walk ends. -/
theorem exists_descends (repository : Repository) (pending : List Declaration) :
    ∃ visited, repository.Descends pending visited := by
  refine exists_descends_of_each fun declaration _ => ?_
  refine insideInduction repository (fun outer inner => ?_) declaration
  exact exists_descends_of_each inner

/-- A walk over declarations of the repository stays there and visits what leads up to them. -/
theorem Descends.of_mem {pending visited : List Declaration}
    (descends : repository.Descends pending visited)
    (known : ∀ declaration ∈ pending, declaration ∈ repository.declarations)
    {inside : Declaration} (member : inside ∈ visited) :
    inside ∈ repository.declarations ∧
      ∃ declaration ∈ pending, declaration ∈ repository.ancestry inside := by
  induction descends with
  | done => cases member
  | @visit declaration rest below beside _ _ insideHypothesis furtherHypothesis =>
    rcases List.mem_cons.mp member with rfl | later
    · exact ⟨known _ List.mem_cons_self, _, List.mem_cons_self, repository.mem_ancestry_self _⟩
    · rcases List.mem_append.mp later with isBelow | isBeside
      · have nested := fun inner found => (repository.mem_nestedIn_iff declaration inner).mp found
        obtain ⟨isKnown, inner, found, above⟩ :=
          insideHypothesis (fun inner found => (nested inner found).1) isBelow
        refine ⟨isKnown, declaration, List.mem_cons_self, mem_ancestry_trans above ?_⟩
        have next : repository.enclosingOf? inner = some declaration := by
          rw [enclosingOf?, (nested inner found).2, Option.bind_some]
          exact (repository.get?_eq_some_iff _ _).mpr ⟨known _ List.mem_cons_self, rfl⟩
        rw [ancestry_of_nested next]
        exact List.mem_cons_of_mem _ (repository.mem_ancestry_self declaration)
      · obtain ⟨isKnown, other, found, above⟩ := furtherHypothesis
          (fun other found => known other (List.mem_cons_of_mem _ found)) isBeside
        exact ⟨isKnown, other, List.mem_cons_of_mem _ found, above⟩

/-- What is visited below a declaration has a longer name. -/
theorem Descends.length_lt {declaration inside : Declaration} {below : List Declaration}
    (descends : repository.Descends (repository.nestedIn declaration) below)
    (member : inside ∈ below) :
    declaration.qualifiedName.length < inside.qualifiedName.length := by
  have known := fun inner found => ((repository.mem_nestedIn_iff declaration inner).mp found).1
  obtain ⟨_, inner, found, above⟩ := descends.of_mem known member
  exact Nat.lt_of_lt_of_le (length_of_mem_nestedIn found).1 (length_le_of_mem_ancestry above)

/-- A walk over declarations that are nested in one name visits none twice. -/
theorem Descends.nodup {pending visited : List Declaration} {name : String}
    (descends : repository.Descends pending visited) (distinct : pending.Nodup)
    (nested : ∀ declaration ∈ pending,
      declaration ∈ repository.declarations ∧ declaration.enclosing = some name) :
    visited.Nodup := by
  induction descends generalizing name with
  | done => exact List.nodup_nil
  | @visit declaration rest below beside inside further insideHypothesis furtherHypothesis =>
    obtain ⟨alone, restDistinct⟩ := List.nodup_cons.mp distinct
    obtain ⟨⟨known, here⟩, others⟩ := List.forall_mem_cons.mp nested
    have belowDistinct : below.Nodup :=
      insideHypothesis (repository.nodup_declarations.filter _)
        fun inner found => (repository.mem_nestedIn_iff declaration inner).mp found
    -- the ways up from what is below lead through the declaration, those from beside it do not
    have through : ∀ other ∈ below, declaration ∈ repository.ancestry other := by
      intro other isBelow
      obtain ⟨_, only, isOnly, above⟩ := (Descends.visit inside .done).of_mem
        (List.forall_mem_singleton.mpr known)
        (List.mem_cons_of_mem _ (List.mem_append_left _ isBelow))
      rw [← List.mem_singleton.mp isOnly]
      exact above
    have past : ∀ other ∈ beside, declaration ∉ repository.ancestry other := by
      intro other isBeside above
      obtain ⟨_, next, found, nextAbove⟩ :=
        further.of_mem (fun next found => (others next found).1) isBeside
      rw [eq_of_mem_ancestry_of_enclosing above nextAbove here (others next found).2] at alone
      exact alone found
    rw [List.nodup_cons, List.mem_append, not_or, List.nodup_append]
    refine ⟨⟨fun again => ?_, fun again => ?_⟩, belowDistinct,
      furtherHypothesis restDistinct others, ?_⟩
    · exact Nat.lt_irrefl _ (inside.length_lt again)
    · exact past declaration again (repository.mem_ancestry_self declaration)
    · rintro other isBelow _ isBeside rfl
      exact past other isBeside (through other isBelow)

/-- A walk from any declaration comes to no name twice. -/
theorem Descends.nodup_names {declaration : Declaration} {below : List Declaration}
    (descends : repository.Descends (repository.nestedIn declaration) below) :
    ((declaration :: below).map (·.qualifiedName)).Nodup := by
  have members := fun inner found => (repository.mem_nestedIn_iff declaration inner).mp found
  have known := fun {inside} (found : inside ∈ below) =>
    (descends.of_mem (fun inner isInner => (members inner isInner).1) found).1
  rw [List.map_cons, List.nodup_cons]
  constructor
  · intro again
    obtain ⟨inside, found, same⟩ := List.mem_map.mp again
    have longer := descends.length_lt found
    rw [same] at longer
    exact Nat.lt_irrefl _ longer
  · have distinct := descends.nodup (repository.nodup_declarations.filter _) members
    exact distinct.map_on fun first isFirst second isSecond =>
      eq_of_qualifiedName (known isFirst) (known isSecond)

end ValueGen.Repository
