/-
This file remembers generated names. A cache is asked by qualified name and strictness; what it
does not hold is found with the help of the name around it and then remembered, unless it is an
error. Since the question is a name and not a declaration, a foreign declaration with the name of
one that has been asked for gets the answer of that one.
-/

import ValueGen.Naming.Rule

namespace ValueGen

/-- The question that a cache answers: a qualified name, and how strictly it is meant. -/
abbrev NameQuestion := String × Strictness

/-- Generated names that have been found, each with its question; also that there is none. -/
structure NameCache where
  entries : List (NameQuestion × Option GeneratedName)

namespace NameCache

/-- The cache that remembers nothing. -/
def empty : NameCache := ⟨[]⟩

/-- The answer to a question, if it is remembered. -/
def find? (cache : NameCache) (question : NameQuestion) : Option (Option GeneratedName) :=
  cache.entries.lookup question

/-- Remembers an answer. -/
def insert (cache : NameCache) (question : NameQuestion) (answer : Option GeneratedName) :
    NameCache :=
  ⟨(question, answer) :: cache.entries⟩

/-- The generated name of the first declaration of a chain in which each is nested in the next,
and the cache after the search. -/
def resolveChain (repository : Repository) (suffix : String) (strictness : Strictness) :
    List Declaration → StateM NameCache (Except GenerationError (Option GeneratedName))
  | [] => pure (.ok none)
  | declaration :: around => do
    match (← get).find? (declaration.qualifiedName, strictness) with
    | some answer => pure (.ok answer)
    | none =>
      match ← resolveChain repository suffix strictness around with
      | .error error => pure (.error error)
      | .ok parent =>
        match Naming.nameWithin repository suffix strictness parent declaration with
        | .error error => pure (.error error)
        | .ok answer =>
          modify (·.insert (declaration.qualifiedName, strictness) answer)
          pure (.ok answer)

/-- The generated name of a declaration, and the cache after the search. A remembered answer is
given before the ancestry is looked up. -/
def resolve (repository : Repository) (suffix : String) (strictness : Strictness)
    (declaration : Declaration) :
    StateM NameCache (Except GenerationError (Option GeneratedName)) := do
  match (← get).find? (declaration.qualifiedName, strictness) with
  | some answer => pure (.ok answer)
  | none => resolveChain repository suffix strictness (repository.ancestry declaration)

end NameCache

end ValueGen
