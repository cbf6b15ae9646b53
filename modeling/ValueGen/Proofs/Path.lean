/-
This file says what paths that are put together from names consist of. A text is split in one way
only, and splitting undoes putting together. A path spells the names between its slashes; where
none of them is empty, appending another path appends its names, and where each of them is plain
they are the components. The path of a unit spells the parts of its package and the file.
-/

import Mathlib.Data.List.Nodup
import ValueGen.Path

namespace ValueGen.Path

/-! ### Splitting -/

theorem splitAt_eq_splitOn (separator : Char) (chars : List Char) :
    splitAt separator chars = chars.splitOn separator := by
  induction chars with
  | nil => rfl
  | cons char rest inductionHypothesis =>
    rw [splitAt, List.splitOn_cons_eq_if_modifyHead, inductionHypothesis]
    by_cases isSeparator : char = separator
    · rw [if_pos isSeparator, if_pos (beq_iff_eq.mpr isSeparator)]
    · rw [if_neg isSeparator, if_neg (fun same => isSeparator (beq_iff_eq.mp same))]
      cases split : rest.splitOn separator with
      | nil => exact absurd split (List.splitOn_ne_nil separator rest)
      | cons part parts => rfl

theorem splitAt_injective (separator : Char) : Function.Injective (splitAt separator) := by
  intro first second same
  have joined : ∀ chars, [separator].intercalate (splitAt separator chars) = chars := by
    intro chars
    rw [splitAt_eq_splitOn, List.intercalate_splitOn]
  rw [← joined first, same, joined]

theorem splitAt_append (separator : Char) (before after : List Char) :
    splitAt separator (before ++ separator :: after) =
      splitAt separator before ++ splitAt separator after := by
  rw [splitAt_eq_splitOn, splitAt_eq_splitOn, splitAt_eq_splitOn, List.splitOn_append_cons_self]

theorem splitAt_of_not_mem {separator : Char} {chars : List Char} (free : separator ∉ chars) :
    splitAt separator chars = [chars] := by
  rw [splitAt_eq_splitOn, List.splitOn_eq_singleton free]

theorem splitAt_ne_nil (separator : Char) (chars : List Char) : splitAt separator chars ≠ [] := by
  rw [splitAt_eq_splitOn]
  exact List.splitOn_ne_nil separator chars

/-- What a text is split into comes out of the text and does not hold the separator. -/
theorem of_mem_splitAt {separator : Char} {chars part : List Char}
    (member : part ∈ splitAt separator chars) : separator ∉ part ∧ part ⊆ chars := by
  induction chars generalizing part with
  | nil =>
    rw [splitAt, List.mem_singleton] at member
    rw [member]
    exact ⟨List.not_mem_nil, List.Subset.refl _⟩
  | cons char rest inductionHypothesis =>
    have later : ∀ other ∈ splitAt separator rest,
        separator ∉ other ∧ other ⊆ char :: rest := by
      intro other isLater
      obtain ⟨free, inside⟩ := inductionHypothesis isLater
      exact ⟨free, List.subset_cons_of_subset _ inside⟩
    rw [splitAt] at member
    by_cases isSeparator : char = separator
    · rw [if_pos isSeparator] at member
      rcases List.mem_cons.mp member with rfl | isLater
      · exact ⟨List.not_mem_nil, List.nil_subset _⟩
      · exact later part isLater
    · rw [if_neg isSeparator] at member
      cases split : splitAt separator rest with
      | nil =>
        rw [split, List.mem_singleton] at member
        rw [member]
        exact ⟨fun here => isSeparator (List.mem_singleton.mp here).symm, by simp⟩
      | cons first others =>
        rw [split] at member later
        rcases List.mem_cons.mp member with rfl | isLater
        · obtain ⟨free, inside⟩ := later first List.mem_cons_self
          refine ⟨fun here => ?_, List.cons_subset.mpr ⟨List.mem_cons_self, inside⟩⟩
          rcases List.mem_cons.mp here with same | further
          · exact isSeparator same.symm
          · exact free further
        · exact later part (List.mem_cons_of_mem _ isLater)

/-! ### What a path spells -/

/-- A path spells the names that stand between its slashes. -/
def Spells (path : String) (names : List String) : Prop :=
  splitAt '/' path.toList = names.map (·.toList)

namespace Spells

variable {base path : String} {names more : List String}

theorem single {name : String} (slashFree : '/' ∉ name.toList) : Spells name [name] :=
  splitAt_of_not_mem slashFree

theorem not_mem_map (named : "" ∉ names) : [] ∉ names.map (·.toList) := by
  intro member
  obtain ⟨name, isName, empty⟩ := List.mem_map.mp member
  exact named (String.toList_eq_nil_iff.mp empty ▸ isName)

/-- A path whose names are not empty does not start with a slash. -/
theorem not_absolute (spells : Spells path names) (named : "" ∉ names) :
    isAbsolute path = false := by
  rw [isAbsolute, decide_eq_false_iff_not]
  intro first
  obtain ⟨rest, split⟩ := List.head?_eq_some_iff.mp first
  refine not_mem_map named ?_
  rw [← spells, split, splitAt, if_pos rfl]
  exact List.mem_cons_self

/-- A path whose names are not empty does not end with a slash. -/
theorem not_trailing (spells : Spells path names) (named : "" ∉ names) :
    path.toList.getLast? ≠ some '/' := by
  intro last
  obtain ⟨before, split⟩ := List.getLast?_eq_some_iff.mp last
  refine not_mem_map named ?_
  rw [← spells, split, splitAt_append]
  exact List.mem_append_right _ List.mem_cons_self

theorem ne_empty (spells : Spells path names) (named : "" ∉ names) : path ≠ "" := by
  rintro rfl
  refine not_mem_map named ?_
  rw [← spells]
  exact List.mem_cons_self

/-- Appending a path appends its names. -/
theorem append (spells : Spells base names) (named : "" ∉ names) (next : Spells path more)
    (nextNamed : "" ∉ more) : Spells (append base path) (names ++ more) := by
  have inBetween : (base.isEmpty || decide (base.toList.getLast? = some '/')) = false := by
    rw [Bool.or_eq_false_iff, decide_eq_false_iff_not]
    exact ⟨Bool.eq_false_iff.mpr fun empty => spells.ne_empty named (String.isEmpty_iff.mp empty),
      spells.not_trailing named⟩
  have slash : (base ++ "/" ++ path).toList = base.toList ++ '/' :: path.toList := by
    rw [String.toList_append, String.toList_append, List.append_assoc]
    rfl
  rw [Path.append, next.not_absolute nextNamed, if_neg Bool.false_ne_true, inBetween,
    if_neg Bool.false_ne_true, Spells, slash, splitAt_append, spells, next, List.map_append]

/-- A path that starts in the working directory spells a single point. -/
theorem point_mem (spells : Spells path names)
    (current : path = "." ∨ path.toList.take 2 = ['.', '/']) : "." ∈ names := by
  have point : ['.'] ∈ names.map (·.toList) := by
    rw [← spells]
    rcases current with rfl | slash
    · exact List.mem_cons_self
    · rw [← List.take_append_drop 2 path.toList, slash]
      exact List.mem_cons_self
  obtain ⟨name, member, same⟩ := List.mem_map.mp point
  rwa [String.toList_inj.mp (same.trans (String.toList_ofList (l := ['.'])).symm)] at member

theorem parts_eq (spells : Spells path names) (named : "" ∉ names) : parts path = names := by
  have kept : (names.map (·.toList)).filter (· ≠ []) = names.map (·.toList) :=
    List.filter_eq_self.mpr fun part member =>
      decide_eq_true fun empty => not_mem_map named (empty ▸ member)
  rw [parts, spells, kept, List.map_map]
  exact (List.map_congr_left fun name _ => String.ofList_toList).trans (List.map_id names)

/-- Where each name is plain, the names are the components. -/
theorem components (spells : Spells path names)
    (plain : ∀ name ∈ names, name ∉ ["", ".", ".."]) : components path = names.map .normal := by
  have named : "" ∉ names := fun member => plain "" member (by decide)
  have elsewhere : ¬ (path = "." ∨ path.toList.take 2 = ['.', '/']) := fun current =>
    plain "." (spells.point_mem current) (by decide)
  rw [Path.components, spells.not_absolute named, if_neg Bool.false_ne_true]
  simp only [Bool.or_eq_true, decide_eq_true_eq, if_neg elsewhere, List.nil_append,
    spells.parts_eq named]
  rw [← List.filterMap_eq_map]
  refine List.filterMap_congr fun name member => ?_
  have isPlain := plain name member
  simp only [List.mem_cons, List.not_mem_nil, or_false, not_or] at isPlain
  rw [if_neg isPlain.2.1, if_neg isPlain.2.2]
  rfl

end Spells

/-! ### The path of a unit -/

/-- The parts of a package that are not empty. -/
def packageParts (package : String) : List String :=
  ((splitAt '.' package.toList).filter (· ≠ [])).map String.ofList

theorem ofUnit_eq (package topLevel : String) :
    ofUnit package topLevel =
      append ((packageParts package).foldl append "") (topLevel ++ ".java") :=
  rfl

/-- The parts of a package hold no point, and a slash only if the package does. -/
theorem of_mem_packageParts {package part : String} (member : part ∈ packageParts package) :
    part ≠ "" ∧ '.' ∉ part.toList ∧ part.toList ⊆ package.toList := by
  obtain ⟨chars, isPart, rfl⟩ := List.mem_map.mp member
  obtain ⟨isPart, nonEmpty⟩ := List.mem_filter.mp isPart
  rw [String.toList_ofList]
  refine ⟨fun empty => of_decide_eq_true nonEmpty ?_, of_mem_splitAt isPart⟩
  rw [← String.toList_ofList (l := chars), empty]
  rfl

/-- Appending names to a path one by one. -/
theorem Spells.foldl_append {base : String} {names : List String} (spells : Spells base names)
    (named : "" ∉ names) (more : List String) (moreNamed : "" ∉ more)
    (slashFree : ∀ name ∈ more, '/' ∉ name.toList) :
    Spells (more.foldl Path.append base) (names ++ more) := by
  induction more generalizing base names with
  | nil => rwa [List.append_nil]
  | cons name rest inductionHypothesis =>
    obtain ⟨nameFree, restFree⟩ := List.forall_mem_cons.mp slashFree
    rw [List.mem_cons, not_or] at moreNamed
    have nameNamed : "" ∉ [name] := by simpa using moreNamed.1
    rw [List.foldl_cons, List.append_cons]
    refine inductionHypothesis (spells.append named (.single nameFree) nameNamed) ?_
      moreNamed.2 restFree
    rw [List.mem_append, not_or]
    exact ⟨named, nameNamed⟩

/-- Appending a path to the empty one. -/
theorem append_empty (path : String) : append "" path = path := by
  have empty : "" ++ path = path := String.empty_append
  rw [append]
  split
  · rfl
  · exact empty

theorem java_not_mem_plain (topLevel : String) : topLevel ++ ".java" ∉ ["", ".", ".."] := by
  intro member
  have lengths : (topLevel ++ ".java").length ≤ 2 := by
    simp only [List.mem_cons, List.not_mem_nil, or_false] at member
    rcases member with same | same | same <;> rw [same] <;> decide
  rw [String.length_append] at lengths
  have five : ".java".length = 5 := rfl
  omega

/-- The path of a unit spells the parts of the package and the file. -/
theorem spells_ofUnit {package topLevel : String} (packageFree : '/' ∉ package.toList)
    (nameFree : '/' ∉ topLevel.toList) :
    Spells (ofUnit package topLevel) (packageParts package ++ [topLevel ++ ".java"]) := by
  have partsNamed : "" ∉ packageParts package := fun member => (of_mem_packageParts member).1 rfl
  have partsFree : ∀ part ∈ packageParts package, '/' ∉ part.toList := fun part member slash =>
    packageFree ((of_mem_packageParts member).2.2 slash)
  have fileNamed : "" ∉ [topLevel ++ ".java"] := by
    rw [List.mem_singleton]
    exact fun same => java_not_mem_plain topLevel (same ▸ List.mem_cons_self)
  have file : Spells (topLevel ++ ".java") [topLevel ++ ".java"] := by
    refine .single ?_
    rw [String.toList_append, List.mem_append, not_or]
    exact ⟨nameFree, by decide⟩
  rw [ofUnit_eq]
  cases parts : packageParts package with
  | nil =>
    rw [List.foldl_nil, append_empty]
    exact file
  | cons part rest =>
    rw [parts] at partsNamed partsFree
    obtain ⟨partFree, restFree⟩ := List.forall_mem_cons.mp partsFree
    rw [List.foldl_cons, append_empty]
    refine Spells.append ?_ partsNamed file fileNamed
    refine Spells.foldl_append (.single partFree) ?_ rest ?_ restFree
    · exact fun same => partsNamed (List.mem_singleton.mp same ▸ List.mem_cons_self)
    · exact fun member => partsNamed (List.mem_cons_of_mem _ member)

/-- The components of the path of a unit are the parts of the package and the file. -/
theorem components_ofUnit {package topLevel : String} (packageFree : '/' ∉ package.toList)
    (nameFree : '/' ∉ topLevel.toList) :
    components (ofUnit package topLevel) =
      (packageParts package).map .normal ++ [.normal (topLevel ++ ".java")] := by
  rw [(spells_ofUnit packageFree nameFree).components, List.map_append]
  · rfl
  · intro name member
    rcases List.mem_append.mp member with isPart | isFile
    · obtain ⟨named, pointFree, _⟩ := of_mem_packageParts isPart
      simp only [List.mem_cons, List.not_mem_nil, or_false, not_or]
      refine ⟨named, ?_, ?_⟩
      · rintro rfl
        exact pointFree (by decide)
      · rintro rfl
        exact pointFree (by decide)
    · rw [List.mem_singleton.mp isFile]
      exact java_not_mem_plain topLevel

/-- Whether a package is the default one or has no empty part. -/
def IsRegular (package : String) : Prop := package = "" ∨ [] ∉ splitAt '.' package.toList

instance (package : String) : Decidable (IsRegular package) :=
  inferInstanceAs (Decidable (_ ∨ _))

theorem map_packageParts {package : String} (named : [] ∉ splitAt '.' package.toList) :
    (packageParts package).map (·.toList) = splitAt '.' package.toList := by
  have kept : (splitAt '.' package.toList).filter (· ≠ []) = splitAt '.' package.toList :=
    List.filter_eq_self.mpr fun part member =>
      decide_eq_true fun empty => named (empty ▸ member)
  rw [packageParts, kept, List.map_map]
  exact (List.map_congr_left fun part _ => String.toList_ofList).trans (List.map_id _)

/-- Only the default package has no parts, among the regular ones. -/
theorem packageParts_eq_nil_iff {package : String} (regular : IsRegular package) :
    packageParts package = [] ↔ package = "" := by
  constructor
  · intro nothing
    rcases regular with empty | named
    · exact empty
    · have parts := map_packageParts named
      rw [nothing, List.map_nil] at parts
      exact absurd parts.symm (splitAt_ne_nil '.' _)
  · rintro rfl
    rfl

/-- Regular packages are known by their parts. -/
theorem eq_of_packageParts_eq {first second : String} (firstRegular : IsRegular first)
    (secondRegular : IsRegular second) (same : packageParts first = packageParts second) :
    first = second := by
  rcases firstRegular with rfl | firstNamed
  · exact ((packageParts_eq_nil_iff secondRegular).mp (same ▸ rfl)).symm
  · rcases secondRegular with rfl | secondNamed
    · exact (packageParts_eq_nil_iff (Or.inr firstNamed)).mp same
    · refine String.toList_inj.mp (splitAt_injective '.' ?_)
      rw [← map_packageParts firstNamed, ← map_packageParts secondNamed, same]

/-- The units of two classes have one path exactly if their packages have the same parts and the
classes the same name. -/
theorem components_ofUnit_eq_iff {firstPackage firstName secondPackage secondName : String}
    (firstPackageFree : '/' ∉ firstPackage.toList) (firstNameFree : '/' ∉ firstName.toList)
    (secondPackageFree : '/' ∉ secondPackage.toList) (secondNameFree : '/' ∉ secondName.toList) :
    components (ofUnit firstPackage firstName) = components (ofUnit secondPackage secondName) ↔
      packageParts firstPackage = packageParts secondPackage ∧ firstName = secondName := by
  rw [components_ofUnit firstPackageFree firstNameFree,
    components_ofUnit secondPackageFree secondNameFree]
  constructor
  · intro same
    obtain ⟨parts, file⟩ := List.append_inj' same rfl
    refine ⟨List.map_injective_iff.mpr (fun _ _ => Component.normal.inj) parts, ?_⟩
    have files := Component.normal.inj (List.cons.inj file).1
    exact (String.append_left_inj _).mp files
  · rintro ⟨parts, rfl⟩
    rw [parts]

end ValueGen.Path
