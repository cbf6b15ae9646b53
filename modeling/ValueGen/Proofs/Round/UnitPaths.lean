/-
This file says to which paths the units of a round go. Outermost classes are told apart by their
dotted names, and files by the components of their paths. The two agree where no package and no
class name holds a slash and no package has an empty part; a name that a marker gives may hold
one, and then two units go to one path.
-/

import ValueGen.Proofs.Emission
import ValueGen.Proofs.Round.Accounting

namespace ValueGen

/-! ### Names that lead to paths of their own -/

namespace GeneratedName

/-- An outermost class is known by its package and its simple name. -/
theorem eq_of_isTopLevel {first second : GeneratedName} (firstTop : first.isTopLevel)
    (secondTop : second.isTopLevel) (packages : first.package = second.package)
    (names : first.topLevel = second.topLevel) : first = second := by
  cases first
  cases second
  rw [mk.injEq]
  exact ⟨packages, names,
    (List.isEmpty_iff.mp firstTop).trans (List.isEmpty_iff.mp secondTop).symm⟩

end GeneratedName

namespace Round

open RoundPlan

/-- To which paths some units go. -/
structure UnitPaths (units : List CompilationUnit) : Prop where
  /-- The components of a path are the parts of the package that are not empty, and a file with the
  name of the class. -/
  components : ∀ unit ∈ units, unit.name.SlashFree →
    Path.components unit.path = (Path.packageParts unit.name.package).map .normal ++
      [.normal (unit.name.topLevel ++ ".java")]
  /-- Two units go to one path exactly if their packages have the same parts that are not empty and
  their classes have the same name. -/
  same_iff : ∀ first ∈ units, ∀ second ∈ units, first.name.SlashFree → second.name.SlashFree →
    (Path.components first.path = Path.components second.path ↔
      Path.packageParts first.name.package = Path.packageParts second.name.package ∧
        first.name.topLevel = second.name.topLevel)
  /-- Where no name holds a slash and no package has an empty part, each unit goes to a path of its
  own. -/
  distinct : (∀ unit ∈ units, unit.name.SlashFree ∧ Path.IsRegular unit.name.package) →
    (units.map fun unit => Path.components unit.path).Nodup
  /-- Where no name holds a slash and each unit goes to a path of its own, the order in which units
  are written to a disk does not matter: each unit that is written has a place of its own, can be
  read back, and leaves all other files alone. -/
  files : (∀ unit ∈ units, unit.name.SlashFree) →
    (units.map fun unit => Path.components unit.path).Nodup → ∀ (disk : Disk) (root : String),
      ∃ written place, written.Sublist units ∧ (written.map place).Nodup ∧
        ∀ order, order.Perm units → disk.FilesAfter root order written place

/-- Units with distinct dotted names that go where their names lead. -/
theorem unitPaths_of_nodup {units : List CompilationUnit}
    (led : ∀ unit ∈ units,
      unit.path = Path.ofUnit unit.name.package unit.name.topLevel ∧ unit.name.isTopLevel)
    (named : (units.map (·.name.qualified)).Nodup) : UnitPaths units := by
  have same_iff : ∀ first ∈ units, ∀ second ∈ units, first.name.SlashFree →
      second.name.SlashFree → (Path.components first.path = Path.components second.path ↔
        Path.packageParts first.name.package = Path.packageParts second.name.package ∧
          first.name.topLevel = second.name.topLevel) := by
    intro first firstMember second secondMember firstFree secondFree
    rw [(led first firstMember).1, (led second secondMember).1]
    exact Path.components_ofUnit_eq_iff firstFree.1 firstFree.2 secondFree.1 secondFree.2
  refine ⟨fun unit member free => ?_, same_iff, fun regular => ?_, fun free paths disk root => ?_⟩
  · rw [(led unit member).1]
    exact Path.components_ofUnit free.1 free.2
  · refine (named.of_map _).map_on fun first firstMember second secondMember same => ?_
    obtain ⟨firstFree, firstRegular⟩ := regular first firstMember
    obtain ⟨secondFree, secondRegular⟩ := regular second secondMember
    obtain ⟨parts, names⟩ := (same_iff first firstMember second secondMember firstFree
      secondFree).mp same
    have packages := Path.eq_of_packageParts_eq firstRegular secondRegular parts
    have equal := GeneratedName.eq_of_isTopLevel (led first firstMember).2
      (led second secondMember).2 packages names
    exact List.inj_on_of_nodup_map named firstMember secondMember
      (congrArg GeneratedName.qualified equal)
  · exact disk.exists_filesAfter (fun unit member =>
      ⟨⟨(led unit member).1, free unit member⟩, (led unit member).2⟩) paths root

/-- Where no name holds a slash and no package has an empty part, the units that the emitter is
offered in a round go to paths of their own. -/
theorem unitPaths_runWith (repository : Repository) (config : Config) (now : String)
    (inputs : List repository.Member) {State : Type} (emit : Emitter (StateM State))
    (state : State) :
    UnitPaths (((runWith repository config now inputs emit.logging).run (state, [])).2.2.map
      Prod.fst) := by
  rw [map_fst_logging]
  refine unitPaths_of_nodup (fun unit member => ?_) ?_
  · obtain ⟨⟨task, generated⟩, isClass, rfl⟩ := List.mem_map.mp member
    exact ⟨rfl, (of_mem_classes_make isClass).2.2⟩
  · rw [List.map_map]
    exact nodup_names_classes repository config.suffix inputs

/-- Two marked interfaces of one name, one of them in a package inside that of the other one. -/
def packagesRepository : Repository :=
  let user := (Declaration.interface "pkg" "UserPOJO").withMarker .plain
  let inner := (Declaration.interface "pkg.sub" "UserPOJO").withMarker .plain
  ⟨[user, inner], by decide⟩

/-- Their units go to paths of their own, and it does not matter which of them is written first. -/
theorem unitPaths_runWith_packages :
    let units := ((runWith packagesRepository .default "" packagesRepository.markedMembers
      Emitter.inMemory.logging).run ([], [])).2.2.map Prod.fst
    (∀ unit ∈ units, unit.name.SlashFree ∧ Path.IsRegular unit.name.package) ∧
      units.map (·.path) = ["pkg/User.java", "pkg/sub/User.java"] ∧
      (units.map fun unit => Path.components unit.path).Nodup ∧
      ∀ disk : Disk, ∃ written place, written.Sublist units ∧ (written.map place).Nodup ∧
        ∀ order, order.Perm units → disk.FilesAfter "out" order written place := by
  intro units
  have paths := unitPaths_runWith packagesRepository .default "" packagesRepository.markedMembers
    Emitter.inMemory []
  have regular : ∀ unit ∈ units, unit.name.SlashFree ∧ Path.IsRegular unit.name.package := by
    decide +kernel
  have distinct := paths.distinct regular
  have slashFree : ∀ unit ∈ units, unit.name.SlashFree := fun unit member =>
    (regular unit member).1
  exact ⟨regular, by decide +kernel, distinct,
    fun disk => paths.files slashFree distinct disk "out"⟩

/-- An interface whose marker gives a name with a slash in it, and a marked interface in a package
whose last part is what is before the slash. -/
def slashRepository : Repository :=
  let account := (Declaration.interface "pkg" "Account").withMarker ⟨some "sub/User"⟩
  let user := (Declaration.interface "pkg.sub" "UserPOJO").withMarker .plain
  ⟨[account, user], by decide⟩

/-- The units of a round, which the emitter has taken, as they stand in memory. -/
def unitsInMemory (repository : Repository) : List CompilationUnit :=
  ((run repository .default "" Emitter.inMemory).run []).2

/-- A round may report no error and have two units that go to one path, so that a file holds what
has been written to it last. -/
theorem path_repeated_slash :
    ((run slashRepository .default "" Emitter.inMemory).run []).1 =
        ⟨[⟨"pkg", "sub/User", []⟩, ⟨"pkg.sub", "User", []⟩], [], []⟩ ∧
      ((unitsInMemory slashRepository).map fun unit => Path.components unit.path) =
        [[.normal "pkg", .normal "sub", .normal "User.java"],
          [.normal "pkg", .normal "sub", .normal "User.java"]] ∧
      ¬ ((unitsInMemory slashRepository).map fun unit => Path.components unit.path).Nodup := by
  refine ⟨?_, ?_, ?_⟩
  · decide +kernel
  · decide +kernel
  · decide +kernel

end Round

end ValueGen
