/-
This file says what the dotted form of a generated name tells. Where no simple name holds a point,
splitting it at the points gives the parts of the package and the simple names, but not where the
one ends and the others begin. So two names have one dotted form only if they are the same or the
package of one of them is the dotted form of a class around the other.
-/

import ValueGen.GeneratedName
import ValueGen.Proofs.Path

namespace ValueGen.GeneratedName

theorem nested_inj {first second : GeneratedName} {firstSimple secondSimple : String} :
    first.nested firstSimple = second.nested secondSimple ↔
      first = second ∧ firstSimple = secondSimple := by
  constructor
  · intro same
    obtain ⟨package, topLevel, inner⟩ := mk.inj same
    obtain ⟨inner, simple⟩ := List.append_inj' inner rfl
    cases first
    cases second
    exact ⟨mk.injEq .. ▸ ⟨package, topLevel, inner⟩, (List.cons.inj simple).1⟩
  · rintro ⟨rfl, rfl⟩
    rfl

/-- Whether no simple name holds a point. -/
def PointFree (name : GeneratedName) : Prop := ∀ simple ∈ name.simpleNames, '.' ∉ simple.toList

instance (name : GeneratedName) : Decidable name.PointFree :=
  inferInstanceAs (Decidable (∀ simple ∈ name.simpleNames, '.' ∉ simple.toList))

/-- The name of the class around this one at a depth, or that of the class itself from its own depth
on. -/
def aroundAt (name : GeneratedName) (depth : Nat) : GeneratedName :=
  { name with inner := name.inner.take depth }

theorem simpleNames_aroundAt (name : GeneratedName) (depth : Nat) :
    (name.aroundAt depth).simpleNames = name.simpleNames.take (depth + 1) := rfl

theorem PointFree.aroundAt {name : GeneratedName} (pointFree : name.PointFree) (depth : Nat) :
    (name.aroundAt depth).PointFree := by
  intro simple member
  rw [simpleNames_aroundAt] at member
  exact pointFree simple (List.mem_of_mem_take member)

/-- What a package puts before the simple names. -/
def packageSplit (package : String) : List (List Char) :=
  if package = "" then [] else Path.splitAt '.' package.toList

theorem packageSplit_injective : Function.Injective packageSplit := by
  intro first second same
  unfold packageSplit at same
  split at same
  · rename_i firstEmpty
    split at same
    · rename_i secondEmpty
      rw [firstEmpty, secondEmpty]
    · exact absurd same.symm (Path.splitAt_ne_nil _ _)
  · split at same
    · exact absurd same (Path.splitAt_ne_nil _ _)
    · exact String.toList_inj.mp (Path.splitAt_injective '.' same)

theorem splitAt_qualified {name : GeneratedName} (pointFree : name.PointFree) :
    Path.splitAt '.' name.qualified.toList =
      packageSplit name.package ++ name.simpleNames.map (·.toList) := by
  have simple : Path.splitAt '.' (".".intercalate name.simpleNames).toList =
      name.simpleNames.map (·.toList) := by
    rw [Path.splitAt_eq_splitOn, String.toList_intercalate]
    refine List.splitOn_intercalate '.' (fun chars member => ?_) (List.cons_ne_nil _ _)
    obtain ⟨part, isPart, rfl⟩ := List.mem_map.mp member
    exact pointFree part isPart
  unfold qualified packageSplit
  by_cases empty : name.package = ""
  · rw [if_pos empty, if_pos (String.isEmpty_iff.mpr empty), List.nil_append]
    exact simple
  · rw [if_neg empty, if_neg (fun isEmpty => empty (String.isEmpty_iff.mp isEmpty)),
      String.toList_append, String.toList_append, List.append_assoc, ← simple]
    exact Path.splitAt_append '.' _ _

/-- Where the package of one name goes as far as that of another one or further, the names are the
same or the package names a class around the other one. -/
theorem eq_or_package_of_split {first second : GeneratedName} (pointFree : first.PointFree)
    {between : List (List Char)}
    (packages : packageSplit second.package = packageSplit first.package ++ between)
    (names : first.simpleNames.map (·.toList) = between ++ second.simpleNames.map (·.toList)) :
    first = second ∨ ∃ depth, second.package = (first.aroundAt depth).qualified := by
  cases between with
  | nil =>
    left
    rw [List.append_nil] at packages
    have simple := List.map_injective_iff.mpr (fun _ _ => String.toList_inj.mp) names
    obtain ⟨topLevel, inner⟩ := List.cons.inj simple
    cases first
    cases second
    rw [mk.injEq]
    exact ⟨(packageSplit_injective packages).symm, topLevel, inner⟩
  | cons part rest =>
    right
    refine ⟨rest.length, ?_⟩
    have named : second.package ≠ "" := by
      intro empty
      rw [packageSplit, if_pos empty] at packages
      exact List.append_ne_nil_of_right_ne_nil _ (List.cons_ne_nil _ _) packages.symm
    have taken : (first.aroundAt rest.length).simpleNames.map (·.toList) = part :: rest := by
      rw [simpleNames_aroundAt, List.map_take, names, List.take_left' (List.length_cons ..)]
    refine String.toList_inj.mp (Path.splitAt_injective '.' ?_)
    rw [splitAt_qualified (pointFree.aroundAt _), taken]
    rw [packageSplit, if_neg named] at packages
    exact packages

/-- Two names without points in their simple names have one dotted form only if they are the same or
the package of one of them is the dotted form of a class around the other. -/
theorem eq_or_package_of_qualified_eq {first second : GeneratedName}
    (firstFree : first.PointFree) (secondFree : second.PointFree)
    (same : first.qualified = second.qualified) :
    first = second ∨ (∃ depth, second.package = (first.aroundAt depth).qualified) ∨
      ∃ depth, first.package = (second.aroundAt depth).qualified := by
  have parts := congrArg (fun text : String => Path.splitAt '.' text.toList) same
  simp only [splitAt_qualified firstFree, splitAt_qualified secondFree] at parts
  rcases List.append_eq_append_iff.mp parts with
    ⟨between, packages, names⟩ | ⟨between, packages, names⟩
  · rcases eq_or_package_of_split firstFree packages names with equal | around
    · exact Or.inl equal
    · exact Or.inr (Or.inl around)
  · rcases eq_or_package_of_split secondFree packages names with equal | around
    · exact Or.inl equal.symm
    · exact Or.inr (Or.inr around)

end ValueGen.GeneratedName
