/-
This file cuts the search for a generated name into turns. In one turn a search asks the cache or
remembers an answer, at most once, or it goes from one declaration to the next without the cache.
So searches that take turns share a cache as searches do of which several are under way. A search
that has all turns to itself is the search of `NameCache.resolve`, whatever the cache holds, and a
search is over after at most three turns for each declaration of the ancestry.
-/

import ValueGen.Proofs.Naming.Remembering

namespace ValueGen

/-- What a search does in its next turn. -/
inductive SearchStage
  /-- Asks the cache for the name of a declaration. -/
  | ask (declaration : Declaration)
  /-- Hands an outcome to the declaration that waits for it, if one does. -/
  | answer (outcome : Except GenerationError (Option GeneratedName))
  /-- Remembers an answer that has been found anew. -/
  | remember (declaration : Declaration) (found : Option GeneratedName)

/-- A search for a generated name that is under way. -/
structure NameSearch where
  strictness : Strictness
  stage : SearchStage
  /-- The declarations that wait for the name around them, the last one to wait first. -/
  waiting : List Declaration

namespace NameSearch

/-- A search that has had no turn. -/
def start (strictness : Strictness) (declaration : Declaration) : NameSearch :=
  ⟨strictness, .ask declaration, []⟩

/-- The outcome of a search that is over. -/
def outcome? (search : NameSearch) : Option (Except GenerationError (Option GeneratedName)) :=
  match search.stage, search.waiting with
  | .answer outcome, [] => some outcome
  | _, _ => none

/-- One turn of a search, with the cache before and after it. -/
def turn (repository : Repository) (suffix : String) (search : NameSearch) (cache : NameCache) :
    NameSearch × NameCache :=
  match search with
  | ⟨strictness, .ask declaration, waiting⟩ =>
    match cache.find? (declaration.qualifiedName, strictness) with
    | some found => (⟨strictness, .answer (.ok found), waiting⟩, cache)
    | none =>
      match repository.enclosingOf? declaration with
      | some enclosing => (⟨strictness, .ask enclosing, declaration :: waiting⟩, cache)
      | none => (⟨strictness, .answer (.ok none), declaration :: waiting⟩, cache)
  | ⟨strictness, .answer (.error error), _ :: waiting⟩ =>
    (⟨strictness, .answer (.error error), waiting⟩, cache)
  | ⟨strictness, .answer (.ok parent), declaration :: waiting⟩ =>
    match Naming.nameWithin repository suffix strictness parent declaration with
    | .error error => (⟨strictness, .answer (.error error), waiting⟩, cache)
    | .ok found => (⟨strictness, .remember declaration found, waiting⟩, cache)
  | ⟨strictness, .answer outcome, []⟩ => (⟨strictness, .answer outcome, []⟩, cache)
  | ⟨strictness, .remember declaration found, waiting⟩ =>
    (⟨strictness, .answer (.ok found), waiting⟩,
      cache.insert (declaration.qualifiedName, strictness) found)

variable (repository : Repository) (suffix : String)

theorem strictness_turn (search : NameSearch) (cache : NameCache) :
    (search.turn repository suffix cache).1.strictness = search.strictness := by
  unfold turn
  split
  · split
    · rfl
    · split <;> rfl
  · rfl
  · split <;> rfl
  · rfl
  · rfl

/-! ### The number of turns -/

/-- How many turns a search may still need. -/
def turnsLeft (search : NameSearch) : Nat :=
  2 * search.waiting.length +
    match search.stage with
    | .ask declaration => 3 * (repository.ancestry declaration).length
    | .answer _ => 0
    | .remember _ _ => 1

/-- Each turn brings a search closer to its end. -/
theorem turnsLeft_turn_le (search : NameSearch) (cache : NameCache) :
    (search.turn repository suffix cache).1.turnsLeft repository ≤
      search.turnsLeft repository - 1 := by
  have positive := fun declaration =>
    List.length_pos_iff.mpr (repository.ancestry_ne_nil declaration)
  unfold turn
  split
  · rename_i strictness declaration waiting
    specialize positive declaration
    split
    · simp only [turnsLeft]
      omega
    · split
      · rename_i enclosing nested
        simp only [turnsLeft, Repository.ancestry_of_nested nested, List.length_cons]
        omega
      · simp only [turnsLeft, List.length_cons]
        omega
  · simp only [turnsLeft, List.length_cons]
    omega
  · split <;> simp only [turnsLeft, List.length_cons] <;> omega
  · exact Nat.le_refl _
  · simp only [turnsLeft]
    omega

/-- A search that needs no more turns is over. -/
theorem exists_outcome_of_turnsLeft {search : NameSearch}
    (done : search.turnsLeft repository = 0) : ∃ outcome, search.outcome? = some outcome := by
  obtain ⟨strictness, stage, waiting⟩ := search
  cases stage with
  | ask declaration =>
    have positive := List.length_pos_iff.mpr (repository.ancestry_ne_nil declaration)
    simp only [turnsLeft] at done
    omega
  | answer outcome =>
    cases waiting with
    | nil => exact ⟨outcome, rfl⟩
    | cons declaration waiting => simp [turnsLeft] at done
  | remember declaration found => simp [turnsLeft] at done

/-! ### A search that has all turns to itself -/

/-- A search with a cache leads to another one with another cache by turns of its own. -/
inductive LeadsTo : NameSearch × NameCache → NameSearch × NameCache → Prop
  | refl (state : NameSearch × NameCache) : LeadsTo state state
  | turn {search : NameSearch} {cache : NameCache} {after : NameSearch × NameCache}
    (further : LeadsTo (search.turn repository suffix cache) after) : LeadsTo (search, cache) after

variable {repository suffix}

theorem LeadsTo.trans {before between after : NameSearch × NameCache}
    (first : LeadsTo repository suffix before between)
    (second : LeadsTo repository suffix between after) :
    LeadsTo repository suffix before after := by
  induction first with
  | refl => exact second
  | turn _ inductionHypothesis => exact .turn (inductionHypothesis second)

end NameSearch

namespace NameCache

/-- What the search for a declaration comes to once the search for what is around it has come to an
outcome and left a cache. -/
def conclude (repository : Repository) (suffix : String) (strictness : Strictness)
    (declaration : Declaration) :
    Except GenerationError (Option GeneratedName) × NameCache →
      Except GenerationError (Option GeneratedName) × NameCache
  | (.error error, cache) => (.error error, cache)
  | (.ok parent, cache) =>
    match Naming.nameWithin repository suffix strictness parent declaration with
    | .error error => (.error error, cache)
    | .ok found => (.ok found, cache.insert (declaration.qualifiedName, strictness) found)

variable {repository : Repository} {suffix : String} {strictness : Strictness}
  {declaration : Declaration} {around : List Declaration} {cache : NameCache}

theorem run_resolveChain_of_found {found : Option GeneratedName}
    (remembered : cache.find? (declaration.qualifiedName, strictness) = some found) :
    (resolveChain repository suffix strictness (declaration :: around)).run cache =
      (.ok found, cache) := by
  rw [resolveChain, run_get_bind, remembered]
  rfl

theorem run_resolveChain_of_missing
    (missing : cache.find? (declaration.qualifiedName, strictness) = none) :
    (resolveChain repository suffix strictness (declaration :: around)).run cache =
      conclude repository suffix strictness declaration
        ((resolveChain repository suffix strictness around).run cache) := by
  rw [resolveChain, run_get_bind, missing]
  show StateT.run (resolveChain repository suffix strictness around >>= _) cache = _
  rw [StateT.run_bind]
  rcases (resolveChain repository suffix strictness around).run cache with ⟨error | parent, cache⟩
  · rfl
  · show StateT.run (match Naming.nameWithin repository suffix strictness parent declaration with
      | .error error => _
      | .ok answer => _) cache = _
    unfold conclude
    dsimp only
    cases Naming.nameWithin repository suffix strictness parent declaration <;> rfl

/-- Whether the ancestry is looked at before or after the cache is asked makes no difference. -/
theorem run_resolve_eq (repository : Repository) (suffix : String) (strictness : Strictness)
    (declaration : Declaration) (cache : NameCache) :
    (resolve repository suffix strictness declaration).run cache =
      (resolveChain repository suffix strictness (repository.ancestry declaration)).run cache := by
  rw [resolve, run_get_bind]
  cases remembered : cache.find? (declaration.qualifiedName, strictness) with
  | some found =>
    rw [Repository.ancestry, run_resolveChain_of_found remembered]
    rfl
  | none => rfl

end NameCache

namespace NameSearch

variable {repository : Repository} {suffix : String}

/-- Once the name around a declaration has an outcome, two turns at most give that of its own. -/
theorem leadsTo_conclude (strictness : Strictness) (declaration : Declaration)
    (waiting : List Declaration)
    (result : Except GenerationError (Option GeneratedName) × NameCache) :
    LeadsTo repository suffix (⟨strictness, .answer result.1, declaration :: waiting⟩, result.2)
      (⟨strictness, .answer
          (NameCache.conclude repository suffix strictness declaration result).1, waiting⟩,
        (NameCache.conclude repository suffix strictness declaration result).2) := by
  obtain ⟨error | parent, cache⟩ := result
  · exact .turn (.refl _)
  · refine .turn ?_
    unfold turn NameCache.conclude
    dsimp only
    cases Naming.nameWithin repository suffix strictness parent declaration with
    | error error => exact .refl _
    | ok found => exact .turn (.refl _)

/-- A search that has all turns to itself comes to the outcome of the search in one go, and it
leaves the cache that this one leaves. -/
theorem leadsTo_resolve (repository : Repository) (suffix : String) (strictness : Strictness)
    (declaration : Declaration) (waiting : List Declaration) (cache : NameCache) :
    LeadsTo repository suffix (⟨strictness, .ask declaration, waiting⟩, cache)
      (⟨strictness, .answer
          ((NameCache.resolve repository suffix strictness declaration).run cache).1, waiting⟩,
        ((NameCache.resolve repository suffix strictness declaration).run cache).2) := by
  rw [NameCache.run_resolve_eq]
  induction declaration using Repository.nestingInduction repository generalizing waiting with
  | outermost declaration outermost =>
    rw [Repository.ancestry_of_outermost outermost]
    refine .turn ?_
    rw [turn]
    cases remembered : cache.find? (declaration.qualifiedName, strictness) with
    | some found =>
      rw [NameCache.run_resolveChain_of_found remembered]
      exact .refl _
    | none =>
      rw [NameCache.run_resolveChain_of_missing remembered, outermost]
      exact leadsTo_conclude strictness declaration waiting (.ok none, cache)
  | nested declaration enclosing nested inductionHypothesis =>
    rw [Repository.ancestry_of_nested nested]
    refine .turn ?_
    rw [turn]
    cases remembered : cache.find? (declaration.qualifiedName, strictness) with
    | some found =>
      rw [NameCache.run_resolveChain_of_found remembered]
      exact .refl _
    | none =>
      rw [NameCache.run_resolveChain_of_missing remembered, nested]
      exact (inductionHypothesis (declaration :: waiting)).trans
        (leadsTo_conclude strictness declaration waiting _)

end NameSearch

end ValueGen
