/-
This file says when toggling the suffix of a name is undone by toggling it again and when it makes
one name out of two. A name with the suffix twice loses it twice, and a name without it gains it
once, so these two meet in the middle; nothing else meets, also where the suffix overlaps itself.
The same holds of the classes for two declarations of one package that are named by toggling.
-/

import ValueGen.Proofs.Naming.ClosedForm

namespace ValueGen.Naming

/-! ### Names and suffixes -/

/-- A name is longer than the suffix and ends with it. -/
def Suffixed (suffix name : String) : Prop := ∃ base, base ≠ "" ∧ name = base ++ suffix

/-- A name without the suffix, and the same name with the suffix twice. -/
structure Doubled (suffix base name : String) : Prop where
  bare : ¬Suffixed suffix base
  twice : name = base ++ suffix ++ suffix

section Toggling

variable {suffix : String}

theorem append_ne_empty (nonEmpty : suffix ≠ "") (base : String) : base ++ suffix ≠ "" :=
  fun empty => nonEmpty (String.append_eq_empty_iff.mp empty).2

theorem append_ne_self (nonEmpty : suffix ≠ "") (base : String) : base ++ suffix ≠ base := by
  intro same
  have lengths := congrArg String.length same
  rw [String.length_append] at lengths
  refine nonEmpty (String.length_eq_zero_iff.mp ?_)
  omega

/-- A name loses the suffix or gains it. -/
theorem toggleSuffix_cases (suffix name : String) :
    (∃ base, base ≠ "" ∧ name = base ++ suffix ∧ toggleSuffix suffix name = base) ∨
      ¬Suffixed suffix name ∧ toggleSuffix suffix name = name ++ suffix := by
  by_cases suffixed : Suffixed suffix name
  · obtain ⟨base, named, rfl⟩ := suffixed
    exact Or.inl ⟨base, named, rfl, toggleSuffix_append named⟩
  · exact Or.inr ⟨suffixed, toggleSuffix_of_ne fun base named split =>
      suffixed ⟨base, named, split⟩⟩

theorem toggleSuffix_ne_self (nonEmpty : suffix ≠ "") (name : String) :
    toggleSuffix suffix name ≠ name := by
  rcases toggleSuffix_cases suffix name with ⟨base, _, split, toggled⟩ | ⟨_, toggled⟩
  · rw [toggled, split]
    exact (append_ne_self nonEmpty base).symm
  · rw [toggled]
    exact append_ne_self nonEmpty name

theorem toggleSuffix_ne_empty (nonEmpty : suffix ≠ "") (name : String) :
    toggleSuffix suffix name ≠ "" := by
  rcases toggleSuffix_cases suffix name with ⟨base, named, _, toggled⟩ | ⟨_, toggled⟩
  · rw [toggled]
    exact named
  · rw [toggled]
    exact append_ne_empty nonEmpty name

/-- Toggling twice gives the name back unless it loses the suffix both times. -/
theorem toggleSuffix_toggleSuffix_iff (nonEmpty : suffix ≠ "") {name : String}
    (named : name ≠ "") :
    toggleSuffix suffix (toggleSuffix suffix name) = name ↔
      ∀ root, root ≠ "" → name ≠ root ++ suffix ++ suffix := by
  rcases toggleSuffix_cases suffix name with ⟨base, _, rfl, toggled⟩ | ⟨bare, toggled⟩
  · rw [toggled]
    rcases toggleSuffix_cases suffix base with ⟨root, rooted, rfl, again⟩ | ⟨bare, again⟩
    -- the suffix is lost twice, and the name has become shorter
    · rw [again]
      refine iff_of_false (fun same => ?_) fun other => other root rooted rfl
      rw [String.append_assoc] at same
      exact append_ne_self (append_ne_empty nonEmpty suffix) root same.symm
    · rw [again]
      refine iff_of_true rfl fun root rooted twice => bare ⟨root, rooted, ?_⟩
      exact (String.append_left_inj suffix).mp twice
  · rw [toggled, toggleSuffix_append named]
    exact iff_of_true rfl fun root _ twice =>
      bare ⟨root ++ suffix, append_ne_empty nonEmpty root, twice⟩

theorem Doubled.toggleSuffix_eq (nonEmpty : suffix ≠ "") {base name : String}
    (doubled : Doubled suffix base name) :
    toggleSuffix suffix base = toggleSuffix suffix name := by
  have gained : toggleSuffix suffix base = base ++ suffix :=
    toggleSuffix_of_ne fun root rooted split => doubled.bare ⟨root, rooted, split⟩
  rw [gained, doubled.twice, toggleSuffix_append (append_ne_empty nonEmpty base)]

/-- Two names become one only if one of them is the other one with the suffix twice, and that one
has no suffix to lose. -/
theorem toggleSuffix_eq_iff (nonEmpty : suffix ≠ "") (first second : String) :
    toggleSuffix suffix first = toggleSuffix suffix second ↔
      first = second ∨ Doubled suffix first second ∨ Doubled suffix second first := by
  constructor
  · intro same
    rcases toggleSuffix_cases suffix first with ⟨base, _, split, toggled⟩ | ⟨bare, toggled⟩
    · rcases toggleSuffix_cases suffix second with ⟨base', _, split', toggled'⟩ | ⟨bare', toggled'⟩
      · rw [toggled, toggled'] at same
        exact Or.inl (by rw [split, split', same])
      · rw [toggled, toggled'] at same
        exact Or.inr (Or.inr ⟨bare', by rw [split, same]⟩)
    · rcases toggleSuffix_cases suffix second with ⟨base', _, split', toggled'⟩ | ⟨_, toggled'⟩
      · rw [toggled, toggled'] at same
        exact Or.inr (Or.inl ⟨bare, by rw [split', same]⟩)
      · rw [toggled, toggled'] at same
        exact Or.inl ((String.append_left_inj suffix).mp same)
  · rintro (rfl | doubled | doubled)
    · rfl
    · exact doubled.toggleSuffix_eq nonEmpty
    · exact (doubled.toggleSuffix_eq nonEmpty).symm

end Toggling

/-! ### Declarations that are named by toggling -/

/-- Outermost classes of one package have one dotted name only if they have one simple name. -/
theorem qualified_outer_inj {package first second : String} :
    GeneratedName.qualified ⟨package, first, []⟩ = GeneratedName.qualified ⟨package, second, []⟩ ↔
      first = second := by
  show (if package.isEmpty then first else package ++ "." ++ first) =
    (if package.isEmpty then second else package ++ "." ++ second) ↔ _
  split
  · exact Iff.rfl
  · exact String.append_right_inj _

/-- A declaration of the repository that is nested in none and marked in effect, and whose marker
gives no name. -/
structure NamedByToggling (repository : Repository) (declaration : Declaration) : Prop where
  member : declaration ∈ repository.declarations
  top : declaration.enclosing = none
  marked : (repository.markerOf? declaration).isSome
  unnamed : givenName? declaration = none

namespace NamedByToggling

variable {repository : Repository} {declaration : Declaration}

/-- Its class is an outermost one and has the toggled name. -/
theorem resolve_eq (toggled : NamedByToggling repository declaration) (suffix : String)
    (strictness : Strictness) :
    resolve repository suffix strictness declaration =
      .ok (some ⟨declaration.package, toggleSuffix suffix declaration.name, []⟩) := by
  have outermost : repository.enclosingOf? declaration = none := by
    rw [Repository.enclosingOf?, toggled.top]
    rfl
  have root := repository.outermost_of_outermost outermost
  have named := @resolve_of_outermost_marked repository suffix strictness declaration
    (by rw [root]; exact toggled.marked)
  rw [named, root, repository.ancestry_of_outermost outermost, nameBelow, outerName,
    toggled.unnamed]
  rfl

/-- Declarations of one package have different simple names. -/
theorem name_ne {first second : Declaration} (firstToggled : NamedByToggling repository first)
    (secondToggled : NamedByToggling repository second)
    (package : first.package = second.package) (other : first ≠ second) :
    first.name ≠ second.name := by
  intro same
  refine other (Repository.eq_of_qualifiedName firstToggled.member secondToggled.member ?_)
  rw [Declaration.qualifiedName, Declaration.qualifiedName, firstToggled.top, secondToggled.top,
    package, same]

end NamedByToggling

/-- What becomes of names and of declarations whose suffix is toggled. -/
structure TogglesNames (suffix : String) : Prop where
  /-- Toggling gives another name, and never none. -/
  changes : ∀ name, name ≠ "" →
    toggleSuffix suffix name ≠ name ∧ toggleSuffix suffix name ≠ ""
  /-- It is undone by toggling again, except behind something that has the suffix twice. -/
  undone_iff : ∀ name, name ≠ "" →
    (toggleSuffix suffix (toggleSuffix suffix name) = name ↔
      ∀ root, root ≠ "" → name ≠ root ++ suffix ++ suffix)
  /-- It makes one name out of two exactly if one of them, which has no suffix to lose, gives the
  other one with the suffix twice. -/
  merges_iff : ∀ first second, first ≠ "" → second ≠ "" → first ≠ second →
    (toggleSuffix suffix first = toggleSuffix suffix second ↔
      Doubled suffix first second ∨ Doubled suffix second first)
  /-- Just then the classes for two declarations of one package have one name, whichever names have
  been asked for before and however strictly. -/
  clashes_iff : ∀ (repository : Repository) (first second : Declaration),
    NamedByToggling repository first → NamedByToggling repository second →
    first.package = second.package → first ≠ second →
    ∀ (strictness : Strictness) (earlier : List (Strictness × Declaration)),
      (∀ call ∈ earlier, call.2 ∈ repository.declarations) →
      ∃ firstName secondName,
        ((NameCache.resolve repository suffix strictness first).run
          (NameCache.after repository suffix earlier)).1 = .ok (some firstName) ∧
        ((NameCache.resolve repository suffix strictness second).run
          (NameCache.after repository suffix earlier)).1 = .ok (some secondName) ∧
        (firstName.qualified = secondName.qualified ↔
          Doubled suffix first.name second.name ∨ Doubled suffix second.name first.name)

theorem togglesNames_of_ne_empty (suffix : String) (nonEmpty : suffix ≠ "") :
    TogglesNames suffix where
  changes name _ := ⟨toggleSuffix_ne_self nonEmpty name, toggleSuffix_ne_empty nonEmpty name⟩
  undone_iff _ named := toggleSuffix_toggleSuffix_iff nonEmpty named
  merges_iff first second _ _ other := by
    rw [toggleSuffix_eq_iff nonEmpty, or_iff_right other]
  clashes_iff repository first second firstToggled secondToggled package other strictness earlier
      known := by
    have sound := NameCache.sound_after suffix earlier known
    refine ⟨_, _,
      (NameCache.yields_resolve strictness firstToggled.member _ sound).1.trans
        (firstToggled.resolve_eq suffix strictness),
      (NameCache.yields_resolve strictness secondToggled.member _ sound).1.trans
        (secondToggled.resolve_eq suffix strictness), ?_⟩
    rw [package, qualified_outer_inj, toggleSuffix_eq_iff nonEmpty,
      or_iff_right (firstToggled.name_ne secondToggled package other)]

/-- Two marked interfaces of one package, the second one called like the first one with a suffix
twice. -/
def doubledRepository : Repository :=
  ⟨[(Declaration.interface "pkg" "ba").withMarker .plain,
    (Declaration.interface "pkg" "baaaaa").withMarker .plain], by decide⟩

/-- A suffix that overlaps itself, and two declarations whose classes have one name. -/
theorem togglesNames_of_ne_empty_overlapping :
    "aa" ≠ "" ∧ TogglesNames "aa" ∧
      NamedByToggling doubledRepository doubledRepository.declarations[0] ∧
      NamedByToggling doubledRepository doubledRepository.declarations[1] ∧
      Doubled "aa" "ba" "baaaaa" := by
  refine ⟨by decide, togglesNames_of_ne_empty "aa" (by decide), ⟨by decide, rfl, rfl, rfl⟩,
    ⟨by decide, rfl, rfl, rfl⟩, ?_, by decide⟩
  rintro ⟨base, named, split⟩
  have lengths := congrArg String.length split
  rw [String.length_append] at lengths
  have short : base.length + 2 = 2 := lengths.symm
  exact named (String.length_eq_zero_iff.mp (Nat.add_right_cancel short))

/-- Behind one letter the suffix is taken off once and then again; the letter alone gets it. -/
example :
    toggleSuffix "aa" "aaaaa" = "aaa" ∧ toggleSuffix "aa" "aaa" = "a" ∧
      toggleSuffix "aa" "a" = "aaa" ∧ toggleSuffix "aa" "aa" = "aaaa" := by
  decide

end ValueGen.Naming
