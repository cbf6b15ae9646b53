/-
This file follows the two recursions that go along the nesting of declarations: a name is found with
the help of the name around it, and a class is put together with the classes nested in it. Each is a
relation with one constructor for each way that a call can go, and nothing in it says that a call
comes back. Since the links between declarations end in both directions, every call does, with the
outcome and the cache of the program.
-/

import ValueGen.GeneratedClass
import ValueGen.Proofs.Naming.Search
import ValueGen.Proofs.Repository.Following

namespace ValueGen

/-! ### Names -/

/-- The recursive search for a generated name, from one cache to another: what the cache holds is
the answer; otherwise the declaration around is searched for first, if there is one. -/
inductive Resolves (repository : Repository) (suffix : String) (strictness : Strictness) :
    Declaration → NameCache → Except GenerationError (Option GeneratedName) × NameCache → Prop
  | remembered {declaration : Declaration} {cache : NameCache} {found : Option GeneratedName}
    (hit : cache.find? (declaration.qualifiedName, strictness) = some found) :
    Resolves repository suffix strictness declaration cache (.ok found, cache)
  | outermost {declaration : Declaration} {cache : NameCache}
    (miss : cache.find? (declaration.qualifiedName, strictness) = none)
    (last : repository.enclosingOf? declaration = none) :
    Resolves repository suffix strictness declaration cache
      (NameCache.conclude repository suffix strictness declaration (.ok none, cache))
  | nested {declaration enclosing : Declaration} {cache : NameCache}
    {around : Except GenerationError (Option GeneratedName) × NameCache}
    (miss : cache.find? (declaration.qualifiedName, strictness) = none)
    (next : repository.enclosingOf? declaration = some enclosing)
    (further : Resolves repository suffix strictness enclosing cache around) :
    Resolves repository suffix strictness declaration cache
      (NameCache.conclude repository suffix strictness declaration around)

section Names

variable {repository : Repository} {suffix : String} {strictness : Strictness}

theorem run_resolve_of_outermost {declaration : Declaration} {cache : NameCache}
    (miss : cache.find? (declaration.qualifiedName, strictness) = none)
    (last : repository.enclosingOf? declaration = none) :
    (NameCache.resolve repository suffix strictness declaration).run cache =
      NameCache.conclude repository suffix strictness declaration (.ok none, cache) := by
  rw [NameCache.run_resolve_eq, Repository.ancestry_of_outermost last,
    NameCache.run_resolveChain_of_missing miss]
  rfl

theorem run_resolve_of_nested {declaration enclosing : Declaration} {cache : NameCache}
    (miss : cache.find? (declaration.qualifiedName, strictness) = none)
    (next : repository.enclosingOf? declaration = some enclosing) :
    (NameCache.resolve repository suffix strictness declaration).run cache =
      NameCache.conclude repository suffix strictness declaration
        ((NameCache.resolve repository suffix strictness enclosing).run cache) := by
  rw [NameCache.run_resolve_eq, Repository.ancestry_of_nested next,
    NameCache.run_resolveChain_of_missing miss, NameCache.run_resolve_eq]

theorem run_resolve_of_remembered {declaration : Declaration} {cache : NameCache}
    {found : Option GeneratedName}
    (hit : cache.find? (declaration.qualifiedName, strictness) = some found) :
    (NameCache.resolve repository suffix strictness declaration).run cache =
      (.ok found, cache) := by
  rw [NameCache.run_resolve_eq, Repository.ancestry, NameCache.run_resolveChain_of_found hit]

/-- Every search ends, as the search of the program does. -/
theorem resolves_iff (declaration : Declaration) (cache : NameCache)
    (outcome : Except GenerationError (Option GeneratedName) × NameCache) :
    Resolves repository suffix strictness declaration cache outcome ↔
      outcome = (NameCache.resolve repository suffix strictness declaration).run cache := by
  constructor
  · intro resolves
    induction resolves with
    | remembered hit => rw [run_resolve_of_remembered hit]
    | outermost miss last => rw [run_resolve_of_outermost miss last]
    | nested miss next _ inductionHypothesis =>
      rw [run_resolve_of_nested miss next, inductionHypothesis]
  · rintro rfl
    induction declaration using Repository.nestingInduction repository with
    | outermost declaration last =>
      cases asked : cache.find? (declaration.qualifiedName, strictness) with
      | some found =>
        rw [run_resolve_of_remembered asked]
        exact .remembered asked
      | none =>
        rw [run_resolve_of_outermost asked last]
        exact .outermost asked last
    | nested declaration enclosing next inductionHypothesis =>
      cases asked : cache.find? (declaration.qualifiedName, strictness) with
      | some found =>
        rw [run_resolve_of_remembered asked]
        exact .remembered asked
      | none =>
        rw [run_resolve_of_nested asked next]
        exact .nested asked next inductionHypothesis

end Names

/-! ### Classes -/

/-- The recursive synthesis for declarations beside each other, from one cache to another: each
declaration is made a class of on its own, then the interfaces nested in it are, and then the next
declaration; the first error ends it all. -/
inductive Synthesizes (resolver : Resolver (StateM NameCache)) :
    List Declaration → NameCache → Except GenerationError (List GeneratedClass) × NameCache → Prop
  | done (cache : NameCache) : Synthesizes resolver [] cache (.ok [], cache)
  | broken {declaration : Declaration} {rest : List Declaration} {cache after : NameCache}
    {error : GenerationError}
    (alone : (resolver.synthesizeAlone declaration).run.run cache = (.error error, after)) :
    Synthesizes resolver (declaration :: rest) cache (.error error, after)
  | brokenInside {declaration : Declaration} {rest : List Declaration}
    {cache between after : NameCache} {generated : GeneratedClass} {error : GenerationError}
    (alone : (resolver.synthesizeAlone declaration).run.run cache = (.ok generated, between))
    (inside : Synthesizes resolver (resolver.repository.interfacesIn declaration) between
      (.error error, after)) :
    Synthesizes resolver (declaration :: rest) cache (.error error, after)
  | brokenBeside {declaration : Declaration} {rest : List Declaration}
    {cache between later after : NameCache} {generated : GeneratedClass}
    {nested : List GeneratedClass} {error : GenerationError}
    (alone : (resolver.synthesizeAlone declaration).run.run cache = (.ok generated, between))
    (inside : Synthesizes resolver (resolver.repository.interfacesIn declaration) between
      (.ok nested, later))
    (beside : Synthesizes resolver rest later (.error error, after)) :
    Synthesizes resolver (declaration :: rest) cache (.error error, after)
  | made {declaration : Declaration} {rest : List Declaration}
    {cache between later after : NameCache} {generated : GeneratedClass}
    {nested others : List GeneratedClass}
    (alone : (resolver.synthesizeAlone declaration).run.run cache = (.ok generated, between))
    (inside : Synthesizes resolver (resolver.repository.interfacesIn declaration) between
      (.ok nested, later))
    (beside : Synthesizes resolver rest later (.ok others, after)) :
    Synthesizes resolver (declaration :: rest) cache
      (.ok ({ generated with nested := nested } :: others), after)

namespace Resolver

variable {Value Result : Type} {cache after : NameCache}
  {program : ExceptT GenerationError (StateM NameCache) Value}
  {next : Value → ExceptT GenerationError (StateM NameCache) Result}

theorem run_bind_of_error {error : GenerationError}
    (ran : program.run.run cache = (.error error, after)) :
    (program >>= next).run.run cache = (.error error, after) := by
  rw [ExceptT.run_bind, StateT.run_bind, ran]
  rfl

theorem run_bind_of_ok {value : Value} (ran : program.run.run cache = (.ok value, after)) :
    (program >>= next).run.run cache = (next value).run.run after := by
  rw [ExceptT.run_bind, StateT.run_bind, ran]
  rfl

variable (resolver : Resolver (StateM NameCache))

/-- The program for declarations beside each other, with what is nested in them. -/
def synthesizeAll (declarations : List Declaration) :
    ExceptT GenerationError (StateM NameCache) (List GeneratedClass) :=
  resolver.synthesizeNests (declarations.map resolver.repository.nest)

theorem synthesizeNest_nest (declaration : Declaration) :
    resolver.synthesizeNest (resolver.repository.nest declaration) = (do
      let alone ← resolver.synthesizeAlone declaration
      let nested ← resolver.synthesizeAll (resolver.repository.interfacesIn declaration)
      pure { alone with nested := nested }) := by
  rw [Repository.nest_eq, synthesizeNest]
  rfl

theorem synthesizeAll_cons (declaration : Declaration) (rest : List Declaration) :
    resolver.synthesizeAll (declaration :: rest) = (do
      let generated ← resolver.synthesizeNest (resolver.repository.nest declaration)
      let others ← resolver.synthesizeAll rest
      pure (generated :: others)) := by
  rw [synthesizeAll, List.map_cons, synthesizeNests]
  rfl

variable {resolver}

/-- What a call gives, if it comes back, is what the program gives. -/
theorem eq_run_of_synthesizes {declarations : List Declaration}
    {outcome : Except GenerationError (List GeneratedClass) × NameCache}
    (synthesizes : Synthesizes resolver declarations cache outcome) :
    outcome = (resolver.synthesizeAll declarations).run.run cache := by
  induction synthesizes with
  | done => rfl
  | @broken declaration _ cache after error alone =>
    have nest : (resolver.synthesizeNest (resolver.repository.nest declaration)).run.run cache =
        (.error error, after) := by
      rw [synthesizeNest_nest, run_bind_of_error alone]
    rw [synthesizeAll_cons, run_bind_of_error nest]
  | @brokenInside declaration _ cache _ after _ error alone _ insideHypothesis =>
    have nest : (resolver.synthesizeNest (resolver.repository.nest declaration)).run.run cache =
        (.error error, after) := by
      rw [synthesizeNest_nest, run_bind_of_ok alone, run_bind_of_error insideHypothesis.symm]
    rw [synthesizeAll_cons, run_bind_of_error nest]
  | @brokenBeside declaration _ cache _ later _ generated nested _ alone _ _ insideHypothesis
      besideHypothesis =>
    have nest : (resolver.synthesizeNest (resolver.repository.nest declaration)).run.run cache =
        (.ok { generated with nested := nested }, later) := by
      rw [synthesizeNest_nest, run_bind_of_ok alone, run_bind_of_ok insideHypothesis.symm]
      rfl
    rw [synthesizeAll_cons, run_bind_of_ok nest, run_bind_of_error besideHypothesis.symm]
  | @made declaration _ cache _ later _ generated nested _ alone _ _ insideHypothesis
      besideHypothesis =>
    have nest : (resolver.synthesizeNest (resolver.repository.nest declaration)).run.run cache =
        (.ok { generated with nested := nested }, later) := by
      rw [synthesizeNest_nest, run_bind_of_ok alone, run_bind_of_ok insideHypothesis.symm]
      rfl
    rw [synthesizeAll_cons, run_bind_of_ok nest, run_bind_of_ok besideHypothesis.symm]
    rfl

/-- A call for some declarations comes back if the calls for what is nested in each of them do. -/
theorem exists_synthesizes_of_each {declarations : List Declaration}
    (each : ∀ declaration ∈ declarations, ∀ cache, ∃ outcome,
      Synthesizes resolver (resolver.repository.interfacesIn declaration) cache outcome)
    (cache : NameCache) : ∃ outcome, Synthesizes resolver declarations cache outcome := by
  induction declarations generalizing cache with
  | nil => exact ⟨_, .done cache⟩
  | cons declaration rest inductionHypothesis =>
    obtain ⟨inner, others⟩ := List.forall_mem_cons.mp each
    rcases alone : (resolver.synthesizeAlone declaration).run.run cache with
      ⟨error | generated, between⟩
    · exact ⟨_, .broken alone⟩
    obtain ⟨⟨error | nested, later⟩, inside⟩ := inner between
    · exact ⟨_, .brokenInside alone inside⟩
    obtain ⟨⟨error | generatedOthers, after⟩, beside⟩ := inductionHypothesis others later
    · exact ⟨_, .brokenBeside alone inside beside⟩
    · exact ⟨_, .made alone inside beside⟩

/-- Every call comes back. -/
theorem exists_synthesizes (declarations : List Declaration) (cache : NameCache) :
    ∃ outcome, Synthesizes resolver declarations cache outcome := by
  refine exists_synthesizes_of_each (fun declaration _ => ?_) cache
  refine Repository.insideInduction resolver.repository (fun outer inner => ?_) declaration
  refine exists_synthesizes_of_each fun nested found => inner nested ?_
  exact (List.mem_filter.mp found).1

/-- Every call comes back, as the program does. -/
theorem synthesizes_iff (declarations : List Declaration) (cache : NameCache)
    (outcome : Except GenerationError (List GeneratedClass) × NameCache) :
    Synthesizes resolver declarations cache outcome ↔
      outcome = (resolver.synthesizeAll declarations).run.run cache := by
  refine ⟨eq_run_of_synthesizes, ?_⟩
  rintro rfl
  obtain ⟨outcome, synthesizes⟩ : ∃ outcome, Synthesizes resolver declarations cache outcome :=
    exists_synthesizes declarations cache
  rw [← eq_run_of_synthesizes synthesizes]
  exact synthesizes

/-- The call for one declaration gives its class alone. -/
theorem run_synthesizeAll_singleton (declaration : Declaration) (cache : NameCache) :
    (resolver.synthesizeAll [declaration]).run.run cache =
      (((resolver.synthesize declaration).run cache).1.map fun generated => [generated],
        ((resolver.synthesize declaration).run cache).2) := by
  rw [synthesizeAll_cons]
  rcases ran : (resolver.synthesizeNest (resolver.repository.nest declaration)).run.run cache with
    ⟨error | generated, after⟩
  · rw [run_bind_of_error ran, synthesize, ran]
    rfl
  · rw [run_bind_of_ok ran, synthesize, ran]
    rfl

end Resolver

/-! ### All that ends -/

/-- What is known of following the nesting of the declarations of a repository. -/
structure NestingEnds (repository : Repository) : Prop where
  /-- The way up from any declaration ends, and it comes to no name again. -/
  climbs : ∀ declaration, ∃ chain,
    (∀ other, repository.Climbs declaration other ↔ other = chain) ∧
      (chain.map (·.qualifiedName)).Nodup ∧ chain.length ≤ repository.size + 1
  /-- So every search for a name comes back, whatever the cache holds, with what the program
  gives. -/
  resolves : ∀ suffix strictness declaration cache outcome,
    Resolves repository suffix strictness declaration cache outcome ↔
      outcome = (NameCache.resolve repository suffix strictness declaration).run cache
  /-- The way down from any declaration ends, and it comes to each declaration of the repository
  once at most. -/
  descends : ∀ declaration, ∃ below,
    (∀ other, repository.Descends [declaration] other ↔ other = declaration :: below) ∧
      ((declaration :: below).map (·.qualifiedName)).Nodup ∧
        ∀ inside ∈ below, inside ∈ repository.declarations
  /-- So every synthesis comes back, with what the program gives. -/
  synthesizes : ∀ suffix declaration cache outcome,
    Synthesizes (.remembering repository suffix) [declaration] cache outcome ↔
      outcome =
        ((((Resolver.remembering repository suffix).synthesize declaration).run cache).1.map
            fun generated => [generated],
          (((Resolver.remembering repository suffix).synthesize declaration).run cache).2)

/-- Whatever texts names, packages and enclosing names are, and whether the repository holds the
declaration or not, the nesting of declarations comes to an end in both directions. -/
theorem nestingEnds_repository (repository : Repository) : NestingEnds repository where
  climbs declaration :=
    ⟨repository.ancestry declaration, Repository.climbs_iff declaration,
      repository.nodup_names_ancestry declaration, repository.length_ancestry_le declaration⟩
  resolves suffix strictness declaration := resolves_iff declaration
  descends declaration := by
    obtain ⟨below, descends⟩ := repository.exists_descends (repository.nestedIn declaration)
    have whole : repository.Descends [declaration] (declaration :: (below ++ [])) :=
      .visit descends .done
    rw [List.append_nil] at whole
    refine ⟨below, fun other => ⟨fun again => again.unique whole, ?_⟩, descends.nodup_names,
      fun inside found => ?_⟩
    · rintro rfl
      exact whole
    · have known := fun inner isInner =>
        ((repository.mem_nestedIn_iff declaration inner).mp isInner).1
      exact (descends.of_mem known found).1
  synthesizes suffix declaration cache outcome := by
    rw [Resolver.synthesizes_iff, Resolver.run_synthesizeAll_singleton]

end ValueGen
