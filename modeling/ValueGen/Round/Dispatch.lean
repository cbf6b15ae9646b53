/-
This file decides which declarations a round deals with. The inputs are declarations of the
repository. The walk follows their order and goes from a marker group on to what is annotated with
it before it goes to the next input. Each declaration is dispatched once, where the walk comes to it
first.
-/

import ValueGen.Repository.Visiting

namespace ValueGen.Repository

/-- What the walk goes on to from a declaration. -/
def membersOf (repository : Repository) (declaration : Declaration) : List Declaration :=
  if declaration.kind = .markerGroup then repository.annotatedWith declaration.qualifiedName
  else []

/-- The declarations that the walk comes to, in order; `undispatched` are those it has not come
to yet. -/
def visit (repository : Repository) (pending undispatched : List Declaration) :
    List Declaration :=
  match pending with
  | [] => []
  | declaration :: rest =>
    match found : undispatched.find? (·.qualifiedName = declaration.qualifiedName) with
    | none => visit repository rest undispatched
    | some dispatched =>
      have := load_without (fun member => (repository.membersOf member).length) found
      dispatched :: visit repository (repository.membersOf dispatched ++ rest)
        (without undispatched declaration.qualifiedName)
termination_by
  pending.length + load (fun member => (repository.membersOf member).length) undispatched

theorem visit_of_missing {declaration : Declaration} {undispatched : List Declaration}
    (missing : undispatched.find? (·.qualifiedName = declaration.qualifiedName) = none)
    (repository : Repository) (rest : List Declaration) :
    repository.visit (declaration :: rest) undispatched = repository.visit rest undispatched := by
  rw [visit]
  split
  · rfl
  · rename_i found
    cases missing.symm.trans found

theorem visit_of_found {declaration dispatched : Declaration} {undispatched : List Declaration}
    (found : undispatched.find? (·.qualifiedName = declaration.qualifiedName) = some dispatched)
    (repository : Repository) (rest : List Declaration) :
    repository.visit (declaration :: rest) undispatched =
      dispatched :: repository.visit (repository.membersOf dispatched ++ rest)
        (without undispatched declaration.qualifiedName) := by
  rw [visit]
  split
  · rename_i missing
    cases missing.symm.trans found
  · rename_i other again
    cases again.symm.trans found
    rfl

/-- The declarations that a round with the given inputs deals with. -/
def dispatch (repository : Repository) (inputs : List repository.Member) : List Declaration :=
  repository.visit inputs.unattach repository.declarations

/-- The interfaces among the dispatched declarations, which are the tasks of the round. -/
def tasks (repository : Repository) (inputs : List repository.Member) : List Declaration :=
  (repository.dispatch inputs).filter (·.kind = .interface)

/-- The dispatched declarations that are neither interfaces nor marker groups. -/
def rejected (repository : Repository) (inputs : List repository.Member) :
    List Declaration :=
  (repository.dispatch inputs).filter (·.kind = .other)

end ValueGen.Repository
