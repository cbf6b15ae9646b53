/-
This file says which declarations are marked in effect: those that carry the marker themselves,
and those with an annotation that leads to a marked marker group, directly or through further
groups. The search for such a group ends on every annotation graph because each group is entered
once at most.
-/

import ValueGen.Repository.Visiting

namespace ValueGen.Repository

/-- The marker groups of the repository. -/
def groups (repository : Repository) : List Declaration :=
  repository.declarations.filter (·.kind = .markerGroup)

/-- Whether one of the pending annotations leads to a marked group; `unvisited` are the groups
that have not been entered. -/
def leadsToMarker (pending : List String) (unvisited : List Declaration) : Bool :=
  match pending with
  | [] => false
  | annotation :: rest =>
    match found : unvisited.find? (·.qualifiedName = annotation) with
    | none => leadsToMarker rest unvisited
    | some group =>
      have := load_without (·.annotations.length) found
      group.marker.isSome ||
        leadsToMarker (group.annotations ++ rest) (without unvisited annotation)
termination_by pending.length + load (·.annotations.length) unvisited

theorem leadsToMarker_of_missing {name : String} {unvisited : List Declaration}
    (missing : unvisited.find? (·.qualifiedName = name) = none) (rest : List String) :
    leadsToMarker (name :: rest) unvisited = leadsToMarker rest unvisited := by
  rw [leadsToMarker]
  split
  · rfl
  · rename_i found
    cases missing.symm.trans found

theorem leadsToMarker_of_found {name : String} {unvisited : List Declaration}
    {group : Declaration} (found : unvisited.find? (·.qualifiedName = name) = some group)
    (rest : List String) :
    leadsToMarker (name :: rest) unvisited = (group.marker.isSome ||
      leadsToMarker (group.annotations ++ rest) (without unvisited name)) := by
  rw [leadsToMarker]
  split
  · rename_i missing
    cases missing.symm.trans found
  · rename_i other again
    cases again.symm.trans found
    rfl

/-- The marker of a declaration in effect: its own one, or the plain one if an annotation leads to
a marked group. -/
def markerOf? (repository : Repository) (declaration : Declaration) : Option Marker :=
  match declaration.marker with
  | some marker => some marker
  | none =>
    if leadsToMarker declaration.annotations repository.groups then some .plain else none

end ValueGen.Repository
