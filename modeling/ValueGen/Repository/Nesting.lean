/-
This file follows the nesting of declarations. Upwards, the ancestry of a declaration is the
declaration itself, the one it is nested in, and so on as long as the repository holds the next
one. Downwards, the nest of a declaration is the tree of the interfaces in it. Both end because a
nested declaration has a longer qualified name than the one around it, whatever texts the names
are made of.
-/

import ValueGen.Repository.Basic

namespace ValueGen

/-- A declaration with the interfaces nested in it, directly and further down. -/
structure Nest where
  declaration : Declaration
  nested : List Nest

namespace Repository

theorem length_of_enclosingOf? {repository : Repository} {declaration enclosing : Declaration}
    (found : repository.enclosingOf? declaration = some enclosing) :
    enclosing.qualifiedName.length < declaration.qualifiedName.length :=
  Declaration.length_qualifiedName (mem_of_enclosingOf? found).2

/-- The declaration and what it is nested in, from the inside out. -/
def ancestry (repository : Repository) (declaration : Declaration) : List Declaration :=
  declaration ::
    match found : repository.enclosingOf? declaration with
    | some enclosing =>
      have := length_of_enclosingOf? found
      repository.ancestry enclosing
    | none => []
termination_by declaration.qualifiedName.length

theorem ancestry_of_outermost {repository : Repository} {declaration : Declaration}
    (outermost : repository.enclosingOf? declaration = none) :
    repository.ancestry declaration = [declaration] := by
  rw [ancestry]
  split
  · rename_i found
    cases outermost.symm.trans found
  · rfl

theorem ancestry_of_nested {repository : Repository} {declaration enclosing : Declaration}
    (nested : repository.enclosingOf? declaration = some enclosing) :
    repository.ancestry declaration = declaration :: repository.ancestry enclosing := by
  rw [ancestry]
  split
  · rename_i other found
    cases nested.symm.trans found
    rfl
  · rename_i missing
    cases missing.symm.trans nested

/-- The length of the longest qualified name. -/
def longest (repository : Repository) : Nat :=
  repository.declarations.foldr (fun declaration length =>
    max declaration.qualifiedName.length length) 0

theorem length_le_longest {repository : Repository} {declaration : Declaration}
    (member : declaration ∈ repository.declarations) :
    declaration.qualifiedName.length ≤ repository.longest := by
  have bound : ∀ declarations : List Declaration, declaration ∈ declarations →
      declaration.qualifiedName.length ≤
        declarations.foldr (fun declaration length =>
          max declaration.qualifiedName.length length) 0 := by
    intro declarations
    induction declarations with
    | nil => simp
    | cons first rest inductionHypothesis =>
      intro member
      rw [List.foldr_cons]
      rcases List.mem_cons.mp member with rfl | later
      · exact Nat.le_max_left _ _
      · exact Nat.le_trans (inductionHypothesis later) (Nat.le_max_right _ _)
  exact bound repository.declarations member

/-- The interfaces that are nested directly in a declaration. -/
def interfacesIn (repository : Repository) (declaration : Declaration) : List Declaration :=
  (repository.nestedIn declaration).filter (·.kind = .interface)

theorem length_of_mem_interfacesIn (repository : Repository) {declaration inner : Declaration}
    (found : inner ∈ repository.interfacesIn declaration) :
    declaration.qualifiedName.length < inner.qualifiedName.length ∧
      inner.qualifiedName.length ≤ repository.longest :=
  have member := (repository.mem_nestedIn_iff declaration inner).mp (List.mem_filter.mp found).1
  ⟨Declaration.length_qualifiedName member.2, length_le_longest member.1⟩

/-- The tree of the interfaces in a declaration. -/
def nest (repository : Repository) (declaration : Declaration) : Nest :=
  ⟨declaration, (repository.interfacesIn declaration).attach.map fun ⟨inner, found⟩ =>
    have := repository.length_of_mem_interfacesIn found
    repository.nest inner⟩
termination_by repository.longest + 1 - declaration.qualifiedName.length

theorem nest_eq (repository : Repository) (declaration : Declaration) :
    repository.nest declaration =
      ⟨declaration, (repository.interfacesIn declaration).map repository.nest⟩ := by
  rw [nest]
  exact congrArg (Nest.mk declaration) List.attach_map_val

end Repository

end ValueGen
