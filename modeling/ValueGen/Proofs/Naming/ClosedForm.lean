/-
This file gives generated names in closed form. In the ancestry of a declaration the outermost
declaration that is marked in effect stands for the outermost class, and each declaration below it
for a class one level further in; what is around it has no say in a lenient search and makes a
strict one fail. The name of each class is given by the own marker of its declaration or is the
simple name, with the suffix toggled for the outermost class only.
-/

import ValueGen.Proofs.Naming.Remembering
import ValueGen.Proofs.Repository.Marking

namespace ValueGen.Naming

variable (repository : Repository) (suffix : String) (strictness : Strictness)

/-- The name that a declaration gives to its class itself. -/
def givenName? (declaration : Declaration) : Option String :=
  declaration.marker.bind (·.explicitName?)

/-- The simple name of an outermost class. -/
def outerName (declaration : Declaration) : String :=
  (givenName? declaration).getD (toggleSuffix suffix declaration.name)

/-- The simple name of a class within another one. -/
def innerName (declaration : Declaration) : String :=
  (givenName? declaration).getD declaration.name

/-- The name of the class for the first of some declarations below a declaration that stands for
an outermost class; each is nested in the next. -/
def nameBelow (root : Declaration) (below : List Declaration) : GeneratedName :=
  ⟨root.package, outerName suffix root, (below.map innerName).reverse⟩

/-! ### Toggled names -/

section Toggled

variable {suffix name : String}

theorem toggleSuffix_append {base : String} (named : base ≠ "") :
    toggleSuffix suffix (base ++ suffix) = base := by
  have split : suffix.toList.isSuffixOf? (base ++ suffix).toList = some base.toList := by
    rw [List.isSuffixOf?_eq_some_iff_append_eq, String.toList_append]
  rw [toggleSuffix, split]
  cases chars : base.toList with
  | nil => exact absurd (String.toList_eq_nil_iff.mp chars) named
  | cons first rest =>
    dsimp only
    rw [← chars, String.ofList_toList]

theorem toggleSuffix_of_ne (other : ∀ base, base ≠ "" → name ≠ base ++ suffix) :
    toggleSuffix suffix name = name ++ suffix := by
  rw [toggleSuffix]
  split
  · rename_i first rest found
    refine absurd ?_ (other (String.ofList (first :: rest)) fun empty => ?_)
    · rw [List.isSuffixOf?_eq_some_iff_append_eq] at found
      rw [← String.toList_inj, String.toList_append, String.toList_ofList, found]
    · rw [← String.toList_eq_nil_iff, String.toList_ofList] at empty
      cases empty
  · rfl

end Toggled

/-! ### One level -/

theorem localName_of_parent (parent : GeneratedName) (declaration : Declaration) :
    localName suffix (repository.markerOf? declaration) (some parent) declaration =
      innerName declaration := by
  unfold localName innerName givenName?
  rw [Repository.explicitName?_markerOf?]
  cases declaration.marker.bind (·.explicitName?) <;> rfl

theorem localName_of_marked {declaration : Declaration}
    (marked : (repository.markerOf? declaration).isSome) :
    localName suffix (repository.markerOf? declaration) none declaration =
      outerName suffix declaration := by
  unfold localName outerName givenName?
  rw [Repository.explicitName?_markerOf?, marked]
  cases declaration.marker.bind (·.explicitName?) <;> rfl

/-- Within a class a declaration always has a name, marked or not. -/
theorem nameWithin_of_parent (parent : GeneratedName) (declaration : Declaration) :
    nameWithin repository suffix strictness (some parent) declaration =
      .ok (some (parent.nested (innerName declaration))) := by
  simp only [nameWithin, Option.isNone_some, Bool.and_false, Bool.false_eq_true, if_false,
    localName_of_parent]

theorem nameWithin_of_marked {declaration : Declaration}
    (marked : (repository.markerOf? declaration).isSome) :
    nameWithin repository suffix strictness none declaration =
      .ok (some (nameBelow suffix declaration [])) := by
  have inEffect : (repository.markerOf? declaration).isNone = false := by
    rw [← Option.not_isSome, marked, Bool.not_true]
  simp only [nameWithin, inEffect, Bool.false_and, Bool.false_eq_true, if_false,
    localName_of_marked repository suffix marked]
  rfl

theorem nameWithin_of_unmarked {declaration : Declaration}
    (unmarked : repository.markerOf? declaration = none) :
    nameWithin repository suffix .lenient none declaration = .ok none ∧
      nameWithin repository suffix .strict none declaration =
        .error (.missingMarker declaration.qualifiedName) := by
  unfold nameWithin
  rw [unmarked]
  exact ⟨rfl, rfl⟩

theorem nested_nameBelow (root : Declaration) (below : List Declaration)
    (declaration : Declaration) :
    (nameBelow suffix root below).nested (innerName declaration) =
      nameBelow suffix root (declaration :: below) := by
  unfold nameBelow GeneratedName.nested
  rw [List.map_cons, List.reverse_cons]

/-! ### A whole chain -/

/-- A lenient search finds no name where nothing is marked. -/
theorem resolveChain_of_unmarked (chain : List Declaration)
    (unmarked : ∀ declaration ∈ chain, repository.markerOf? declaration = none) :
    resolveChain repository suffix .lenient chain = .ok none := by
  induction chain with
  | nil => rfl
  | cons declaration around inductionHypothesis =>
    rw [resolveChain, inductionHypothesis fun other above =>
      unmarked other (List.mem_cons_of_mem _ above)]
    exact (nameWithin_of_unmarked repository suffix (unmarked _ List.mem_cons_self)).1

/-- A failing search fails for every declaration further in. -/
theorem resolveChain_append_of_error {error : GenerationError} (below around : List Declaration)
    (fails : resolveChain repository suffix strictness around = .error error) :
    resolveChain repository suffix strictness (below ++ around) = .error error := by
  induction below with
  | nil => exact fails
  | cons declaration below inductionHypothesis =>
    rw [List.cons_append, resolveChain, inductionHypothesis]
    rfl

/-- Below a marked declaration with nothing generated around it every declaration has a name. -/
theorem resolveChain_append_of_root {root : Declaration} (below around : List Declaration)
    (marked : (repository.markerOf? root).isSome)
    (outside : resolveChain repository suffix strictness around = .ok none) :
    resolveChain repository suffix strictness (below ++ root :: around) =
      .ok (some (nameBelow suffix root below)) := by
  induction below with
  | nil =>
    rw [List.nil_append, resolveChain, outside]
    exact nameWithin_of_marked repository suffix strictness marked
  | cons declaration below inductionHypothesis =>
    rw [List.cons_append, resolveChain, inductionHypothesis, ← nested_nameBelow]
    exact nameWithin_of_parent repository suffix strictness _ declaration

/-! ### The ancestry of a declaration -/

variable {repository}

/-- Where anything is marked there is an outermost declaration that is marked. -/
theorem exists_root (chain : List Declaration)
    (marked : ∃ declaration ∈ chain, (repository.markerOf? declaration).isSome) :
    ∃ below root around, chain = below ++ root :: around ∧
      (repository.markerOf? root).isSome ∧
        ∀ declaration ∈ around, repository.markerOf? declaration = none := by
  induction chain with
  | nil => obtain ⟨declaration, member, _⟩ := marked; cases member
  | cons first rest inductionHypothesis =>
    by_cases further : ∃ declaration ∈ rest, (repository.markerOf? declaration).isSome
    · obtain ⟨below, root, around, split, rootMarked, outside⟩ := inductionHypothesis further
      exact ⟨first :: below, root, around, by rw [split, List.cons_append], rootMarked, outside⟩
    · have outside : ∀ declaration ∈ rest, repository.markerOf? declaration = none := by
        intro declaration member
        rw [← Option.not_isSome_iff_eq_none]
        exact fun isMarked => further ⟨declaration, member, isMarked⟩
      obtain ⟨declaration, member, isMarked⟩ := marked
      rcases List.mem_cons.mp member with rfl | later
      · exact ⟨[], declaration, rest, rfl, isMarked, outside⟩
      · exact absurd ⟨declaration, later, isMarked⟩ further

/-- A lenient search takes the outermost marked declaration for the outermost class. -/
theorem resolve_lenient_of_root {declaration root : Declaration} {below around : List Declaration}
    (split : repository.ancestry declaration = below ++ root :: around)
    (marked : (repository.markerOf? root).isSome)
    (outside : ∀ other ∈ around, repository.markerOf? other = none) :
    resolve repository suffix .lenient declaration = .ok (some (nameBelow suffix root below)) := by
  rw [resolve, split]
  exact resolveChain_append_of_root repository suffix .lenient below around marked
    (resolveChain_of_unmarked repository suffix around outside)

/-- Where the outermost declaration is marked, all below it is named, however strictly. -/
theorem resolve_of_outermost_marked {declaration : Declaration}
    (marked : (repository.markerOf? (repository.outermost declaration)).isSome) :
    resolve repository suffix strictness declaration =
      .ok (some (nameBelow suffix (repository.outermost declaration)
        (repository.ancestry declaration).dropLast)) := by
  have chain := resolveChain_append_of_root repository suffix strictness
    (repository.ancestry declaration).dropLast [] marked rfl
  rwa [← repository.ancestry_eq_dropLast_append] at chain

/-- Where the outermost declaration is not marked, a strict search fails because of it. -/
theorem resolve_strict_of_outermost_unmarked {declaration : Declaration}
    (unmarked : repository.markerOf? (repository.outermost declaration) = none) :
    resolve repository suffix .strict declaration =
      .error (.missingMarker (repository.outermost declaration).qualifiedName) := by
  rw [resolve, repository.ancestry_eq_dropLast_append]
  exact resolveChain_append_of_error repository suffix .strict _ _
    (nameWithin_of_unmarked repository suffix unmarked).2

/-- A lenient search finds a name exactly where something in the ancestry is marked, and never
fails. -/
theorem resolve_lenient_cases (repository : Repository) (suffix : String)
    (declaration : Declaration) :
    ((∀ around ∈ repository.ancestry declaration, repository.markerOf? around = none) ∧
        resolve repository suffix .lenient declaration = .ok none) ∨
      (∃ around ∈ repository.ancestry declaration, (repository.markerOf? around).isSome) ∧
        ∃ name, resolve repository suffix .lenient declaration = .ok (some name) := by
  by_cases marked : ∃ around ∈ repository.ancestry declaration,
    (repository.markerOf? around).isSome
  · obtain ⟨below, root, around, split, rootMarked, outside⟩ := exists_root _ marked
    exact Or.inr ⟨marked, _, resolve_lenient_of_root suffix split rootMarked outside⟩
  · have unmarked : ∀ around ∈ repository.ancestry declaration,
        repository.markerOf? around = none := by
      intro around member
      rw [← Option.not_isSome_iff_eq_none]
      exact fun isMarked => marked ⟨around, member, isMarked⟩
    exact Or.inl ⟨unmarked, resolveChain_of_unmarked repository suffix _ unmarked⟩

/-- What comes after a position of a list stands at a later position. -/
theorem exists_getElem_of_mem_drop {Item : Type} {items : List Item} {index : Nat} {item : Item}
    (member : item ∈ items.drop (index + 1)) :
    ∃ further, ∃ inside : further < items.length, index < further ∧ items[further] = item := by
  obtain ⟨offset, bound, equal⟩ := List.mem_iff_getElem.mp member
  rw [List.length_drop] at bound
  rw [List.getElem_drop] at equal
  exact ⟨index + 1 + offset, by omega, by omega, equal⟩

/-- The last marked member of the ancestry stands for the outermost class. -/
theorem resolve_lenient_of_last_marked {declaration : Declaration} (index : Nat)
    (bound : index < (repository.ancestry declaration).length)
    (marked : (repository.markerOf? (repository.ancestry declaration)[index]).isSome)
    (last : ∀ (further : Nat) (inside : further < (repository.ancestry declaration).length),
      index < further → repository.markerOf? (repository.ancestry declaration)[further] = none) :
    resolve repository suffix .lenient declaration =
      .ok (some (nameBelow suffix (repository.ancestry declaration)[index]
        ((repository.ancestry declaration).take index))) := by
  have split : repository.ancestry declaration =
      (repository.ancestry declaration).take index ++ (repository.ancestry declaration)[index] ::
        (repository.ancestry declaration).drop (index + 1) := by
    rw [← List.drop_eq_getElem_cons bound, List.take_append_drop]
  refine resolve_lenient_of_root suffix split marked fun other member => ?_
  obtain ⟨further, inside, later, rfl⟩ := exists_getElem_of_mem_drop member
  exact last further inside later

/-- A strict search that succeeds finds the name that a lenient one finds. -/
theorem resolve_lenient_of_strict {declaration : Declaration} {answer : Option GeneratedName}
    (found : resolve repository suffix .strict declaration = .ok answer) :
    (repository.markerOf? (repository.outermost declaration)).isSome ∧
      resolve repository suffix .lenient declaration = .ok answer := by
  cases marker : repository.markerOf? (repository.outermost declaration) with
  | none =>
    rw [resolve_strict_of_outermost_unmarked suffix marker] at found
    cases found
  | some effective =>
    have marked : (repository.markerOf? (repository.outermost declaration)).isSome := by
      rw [marker]
      rfl
    rw [resolve_of_outermost_marked suffix .strict marked] at found
    exact ⟨rfl, (resolve_of_outermost_marked suffix .lenient marked).trans found⟩

/-- Where a declaration has a name, what is nested in it has the name of a class nested in that
one. -/
theorem resolve_of_enclosing {inner enclosing : Declaration} {name : GeneratedName}
    (nested : repository.enclosingOf? inner = some enclosing)
    (named : resolve repository suffix strictness enclosing = .ok (some name)) :
    resolve repository suffix strictness inner = .ok (some (name.nested (innerName inner))) := by
  rw [resolve, Repository.ancestry_of_nested nested, resolveChain, ← resolve, named]
  exact nameWithin_of_parent repository suffix strictness name inner

/-- Where a declaration has a name, what is embedded in it has one in the same package. -/
theorem exists_resolve_of_embeddedIn {root inside : Declaration} {name : GeneratedName}
    (embedded : Repository.EmbeddedIn repository root inside)
    (named : resolve repository suffix strictness root = .ok (some name)) :
    ∃ insideName, resolve repository suffix strictness inside = .ok (some insideName) ∧
      insideName.package = name.package := by
  induction embedded with
  | itself => exact ⟨name, named, rfl⟩
  | nested _ _ nested _ inductionHypothesis =>
    obtain ⟨around, aroundNamed, samePackage⟩ := inductionHypothesis
    exact ⟨_, resolve_of_enclosing suffix strictness nested aroundNamed, samePackage⟩

/-! ### The closed form -/

/-- What closed form a search of either strictness answers in, for one declaration. -/
structure ClosedForm (repository : Repository) (suffix : String) (declaration : Declaration)
    (search : Strictness → Except GenerationError (Option GeneratedName)) : Prop where
  /-- The ancestry starts with the declaration, each member is nested in the next, and the last one
  is nested in none that the repository holds. -/
  chain : (repository.ancestry declaration).head? = some declaration ∧
    (repository.ancestry declaration).getLast? = some (repository.outermost declaration) ∧
      ∀ (index : Nat) (bound : index < (repository.ancestry declaration).length),
        repository.enclosingOf? (repository.ancestry declaration)[index] =
          (repository.ancestry declaration)[index + 1]?
  /-- A lenient search does not fail. -/
  lenient_total : ∃ answer, search .lenient = .ok answer
  /-- A lenient search finds no name exactly where nothing in the ancestry is marked. -/
  lenient_none : search .lenient = .ok none ↔
    ∀ around ∈ repository.ancestry declaration, repository.markerOf? around = none
  /-- Otherwise the last member of the ancestry that is marked stands for the outermost class, and
  those before it for the classes within, from the inside out. -/
  lenient_some : ∀ (index : Nat) (bound : index < (repository.ancestry declaration).length),
    (repository.markerOf? (repository.ancestry declaration)[index]).isSome →
    (∀ (further : Nat) (inside : further < (repository.ancestry declaration).length),
      index < further → repository.markerOf? (repository.ancestry declaration)[further] = none) →
    ∃ name, search .lenient = .ok (some name) ∧
      name.package = (repository.ancestry declaration)[index].package ∧
      name.simpleNames = outerName suffix (repository.ancestry declaration)[index] ::
        (((repository.ancestry declaration).take index).map innerName).reverse
  /-- A strict search succeeds exactly where the outermost declaration is marked. -/
  strict_total : (∃ answer, search .strict = .ok answer) ↔
    (repository.markerOf? (repository.outermost declaration)).isSome
  /-- A strict search that succeeds finds the name that a lenient one finds. -/
  strict_some : (repository.markerOf? (repository.outermost declaration)).isSome →
    search .strict = search .lenient
  /-- A strict search that fails names the outermost declaration. -/
  strict_error : repository.markerOf? (repository.outermost declaration) = none →
    search .strict = .error (.missingMarker (repository.outermost declaration).qualifiedName)

/-- The search that computes every name anew answers in closed form. -/
theorem closedForm_resolve (repository : Repository) (suffix : String)
    (declaration : Declaration) :
    ClosedForm repository suffix declaration fun strictness =>
      resolve repository suffix strictness declaration where
  chain := ⟨repository.head?_ancestry declaration,
    List.getLast?_eq_some_getLast (repository.ancestry_ne_nil declaration),
    repository.enclosingOf?_getElem_ancestry declaration⟩
  lenient_total := by
    rcases resolve_lenient_cases repository suffix declaration with ⟨_, found⟩ | ⟨_, _, found⟩
    · exact ⟨_, found⟩
    · exact ⟨_, found⟩
  lenient_none := by
    refine ⟨fun found => ?_, resolveChain_of_unmarked repository suffix _⟩
    rcases resolve_lenient_cases repository suffix declaration with ⟨unmarked, _⟩ | ⟨_, _, other⟩
    · exact unmarked
    · cases found.symm.trans other
  lenient_some index bound marked last :=
    ⟨_, resolve_lenient_of_last_marked suffix index bound marked last, rfl, rfl⟩
  strict_total :=
    ⟨fun ⟨_, found⟩ => (resolve_lenient_of_strict suffix found).1,
      fun marked => ⟨_, resolve_of_outermost_marked suffix .strict marked⟩⟩
  strict_some marked :=
    (resolve_of_outermost_marked suffix .strict marked).trans
      (resolve_of_outermost_marked suffix .lenient marked).symm
  strict_error unmarked := resolve_strict_of_outermost_unmarked suffix unmarked

/-- Whatever has been asked for before, a search with a cache answers in closed form. -/
theorem closedForm_resolve_after (repository : Repository) (suffix : String)
    (earlier : List (Strictness × Declaration))
    (known : ∀ call ∈ earlier, call.2 ∈ repository.declarations) (declaration : Declaration)
    (member : declaration ∈ repository.declarations) :
    ClosedForm repository suffix declaration fun strictness =>
      ((NameCache.resolve repository suffix strictness declaration).run
        (NameCache.after repository suffix earlier)).1 := by
  have sound := NameCache.sound_after suffix earlier known
  have same : (fun strictness => ((NameCache.resolve repository suffix strictness declaration).run
        (NameCache.after repository suffix earlier)).1) = fun strictness =>
      resolve repository suffix strictness declaration := by
    funext strictness
    exact (NameCache.yields_resolve strictness member _ sound).1
  rw [same]
  exact closedForm_resolve repository suffix declaration

/-- An interface whose marker gives a name, nested in a declaration that is no interface, which is
nested in a member of a marked group, which is nested in an interface that is not marked. -/
def gapRepository : Repository :=
  let outer := Declaration.interface "pkg" "Outer"
  let middle := (Declaration.interface "pkg" "MiddlePOJO").nestIn outer
  let middle := { middle with annotations := ["pkg.Model"] }
  let inner := (Declaration.new "pkg" "Inner" .other).nestIn middle
  let deep := ((Declaration.interface "pkg" "Deep").nestIn inner).withMarker ⟨some "Depth"⟩
  let group := (Declaration.new "pkg" "Model" .markerGroup).withMarker .plain
  ⟨[deep, inner, middle, outer, group], by decide⟩

/-- Both searches answer for the innermost declaration, after a strict search that failed. -/
theorem closedForm_resolve_gap :
    (∀ call ∈ [(Strictness.strict, gapRepository.declarations[0])],
        call.2 ∈ gapRepository.declarations) ∧
      gapRepository.declarations[0] ∈ gapRepository.declarations ∧
      ClosedForm gapRepository "POJO" gapRepository.declarations[0] (fun strictness =>
        ((NameCache.resolve gapRepository "POJO" strictness gapRepository.declarations[0]).run
          (NameCache.after gapRepository "POJO"
            [(.strict, gapRepository.declarations[0])])).1) :=
  ⟨by decide, by decide,
    closedForm_resolve_after gapRepository "POJO" [(.strict, gapRepository.declarations[0])]
      (by decide) gapRepository.declarations[0] (by decide)⟩

/-- What is around the outermost marked declaration makes the strict search fail only. -/
example :
    resolve gapRepository "POJO" .lenient gapRepository.declarations[0] =
        .ok (some ⟨"pkg", "Middle", ["Inner", "Depth"]⟩) ∧
      resolve gapRepository "POJO" .strict gapRepository.declarations[0] =
        .error (.missingMarker "pkg.Outer") := by
  refine ⟨?_, ?_⟩
  · decide +kernel
  · decide +kernel

end ValueGen.Naming
