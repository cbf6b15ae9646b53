/-
This file compares repositories that hold the same declarations in different orders. A name stands
for the same declaration in both, so a declaration is nested in the same ones. The search for a
marked group may come to the groups in another order and finds one in both or in none, so the
marker in effect is the same. What a repository lists, it lists in another order only.
-/

import ValueGen.Proofs.Repository.Ancestry
import ValueGen.Proofs.Repository.Marking

namespace ValueGen.Repository

/-! ### Building -/

/-- Declarations with distinct names make a repository, whatever their order. -/
theorem exists_ofList {declarations : List Declaration}
    (distinct : (declarations.map (·.qualifiedName)).Nodup) :
    ∃ repository, ofList declarations = .ok repository := by
  have noneRepeated : firstRepeated? [] (declarations.map (·.qualifiedName)) = none :=
    (firstRepeated?_eq_none_iff [] _).mpr ⟨distinct, fun _ _ => List.not_mem_nil⟩
  unfold ofList
  split
  · rename_i repeated
    cases noneRepeated.symm.trans repeated
  · exact ⟨_, rfl⟩

/-! ### Asking -/

variable {first second : Repository}
  (reordered : first.declarations.Perm second.declarations)

include reordered

theorem get?_of_perm : first.get? = second.get? := by
  funext name
  refine Option.ext fun declaration => ?_
  rw [get?_eq_some_iff, get?_eq_some_iff, reordered.mem_iff]

theorem enclosingOf?_of_perm : first.enclosingOf? = second.enclosingOf? := by
  funext declaration
  rw [enclosingOf?, enclosingOf?, get?_of_perm reordered]

theorem ancestry_of_perm : first.ancestry = second.ancestry := by
  funext declaration
  induction declaration using nestingInduction first with
  | outermost declaration outermost =>
    rw [ancestry_of_outermost outermost]
    rw [enclosingOf?_of_perm reordered] at outermost
    rw [ancestry_of_outermost outermost]
  | nested declaration enclosing nested inductionHypothesis =>
    rw [ancestry_of_nested nested, inductionHypothesis]
    rw [enclosingOf?_of_perm reordered] at nested
    rw [ancestry_of_nested nested]

theorem leadsToMarker_of_perm (pending : List String) :
    leadsToMarker pending first.groups = leadsToMarker pending second.groups := by
  have groups : ∀ group, group ∈ first.groups ↔ group ∈ second.groups :=
    fun group => (reordered.filter _).mem_iff
  rw [Bool.eq_iff_iff, leadsToMarker_iff _ _ first.distinct_groups,
    leadsToMarker_iff _ _ second.distinct_groups]
  refine exists_congr fun group => and_congr_left fun _ => ?_
  exact ⟨fun reached => reached.of_seeds (fun other => (groups other).mp) fun _ => .seed,
    fun reached => reached.of_seeds (fun other => (groups other).mpr) fun _ => .seed⟩

/-- The order of the declarations does not matter for the marker in effect. -/
theorem markerOf?_of_perm : first.markerOf? = second.markerOf? := by
  funext declaration
  rw [markerOf?, markerOf?, leadsToMarker_of_perm reordered]

/-! ### Listing -/

theorem perm_interfacesIn (declaration : Declaration) :
    (first.interfacesIn declaration).Perm (second.interfacesIn declaration) :=
  (reordered.filter _).filter _

/-- The tree of the interfaces in a declaration holds the same declarations. -/
theorem mem_nest_of_perm (declaration inside : Declaration) :
    inside ∈ (first.nest declaration).declarations ↔
      inside ∈ (second.nest declaration).declarations := by
  induction declaration using nest.induct first with
  | case1 declaration inductionHypothesis =>
    rw [mem_declarations_nest_iff, mem_declarations_nest_iff]
    refine or_congr_right (exists_congr fun inner => ?_)
    rw [← (perm_interfacesIn reordered declaration).mem_iff]
    exact and_congr_right fun found => inductionHypothesis inner found

end ValueGen.Repository
