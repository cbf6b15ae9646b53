/-
This file holds what the stages of generation know about names: a repository and a way to find
generated names in it. The direct way computes every name anew; the remembering way keeps the
names it has found in a cache that later searches share.
-/

import ValueGen.Naming.Cache

namespace ValueGen

/-- A repository with a way to find generated names in it. -/
structure Resolver (m : Type → Type) where
  repository : Repository
  resolve : Strictness → Declaration → m (Except GenerationError (Option GeneratedName))

namespace Resolver

variable {m : Type → Type} [Monad m]

/-- Computes every name anew. -/
def direct (repository : Repository) (suffix : String) : Resolver Id :=
  ⟨repository, Naming.resolve repository suffix⟩

/-- Remembers the names that have been found. -/
def remembering (repository : Repository) (suffix : String) : Resolver (StateM NameCache) :=
  ⟨repository, NameCache.resolve repository suffix⟩

/-- The name of a declaration that has to be generated. -/
def strictName (resolver : Resolver m) (declaration : Declaration) :
    m (Except GenerationError GeneratedName) := do
  match ← resolver.resolve .strict declaration with
  | .ok (some name) => pure (.ok name)
  | .ok none => pure (.error (.missingMarker declaration.qualifiedName))
  | .error error => pure (.error error)

/-- The name of a declaration, if it is generated. -/
def lenientName? (resolver : Resolver m) (declaration : Declaration) :
    m (Option GeneratedName) := do
  match ← resolver.resolve .lenient declaration with
  | .ok name => pure name
  | .error _ => pure none

end Resolver

end ValueGen
