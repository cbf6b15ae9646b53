/-
This file says how the fields of classes are named, whatever the names of the classes are. Putting a
class together asks for names, and what comes of that may depend on what has been asked for before;
but the fields always stand for the accessors of the declaration, one by one and each named by its
accessor, in the class for a declaration as in all classes in it; and no two fields of a class have
one name.
-/

import ValueGen.Proofs.Synthesis

namespace ValueGen

/-! ### What programs with a state ensure -/

section Ensures

variable {State Error Value Result Item : Type}

/-- Whatever state a program starts from, the value that it gives has a property. -/
def Ensures (property : Value → Prop) (program : ExceptT Error (StateM State) Value) : Prop :=
  ∀ state value, (program.run.run state).1 = .ok value → property value

namespace Ensures

variable {property : Value → Prop} {after : Result → Prop}

theorem pure {value : Value} (holds : property value) :
    Ensures property (Pure.pure value : ExceptT Error (StateM State) Value) := by
  intro state other same
  rw [← Except.ok.inj same]
  exact holds

theorem throw (error : Error) :
    Ensures property (throw error : ExceptT Error (StateM State) Value) :=
  fun _ _ impossible => (by cases impossible)

theorem nothing (program : ExceptT Error (StateM State) Value) :
    Ensures (fun _ => True) program := fun _ _ _ => trivial

theorem bind {program : ExceptT Error (StateM State) Value}
    {next : Value → ExceptT Error (StateM State) Result} (first : Ensures property program)
    (second : ∀ value, property value → Ensures after (next value)) :
    Ensures after (program >>= next) := by
  intro state result found
  rw [ExceptT.run_bind, StateT.run_bind] at found
  rcases ran : program.run.run state with ⟨error | value, later⟩
  · rw [ran] at found
    cases found
  · rw [ran] at found
    exact second value (first state value (congrArg Prod.fst ran)) later result found

/-- Programs that are run for the items of a list give values that belong to the items. -/
theorem mapM {related : Item → Value → Prop} {program : Item → ExceptT Error (StateM State) Value}
    (items : List Item) (each : ∀ item, Ensures (related item) (program item)) :
    Ensures (List.Forall₂ related items) (items.mapM program) := by
  induction items with
  | nil => exact .pure .nil
  | cons item rest inductionHypothesis =>
    rw [List.mapM_cons]
    exact .bind (each item) fun value first => .bind inductionHypothesis fun values others =>
      .pure (.cons first others)

end Ensures

end Ensures

/-! ### Fields and accessors -/

/-- The fields of a class stand for the accessors of a declaration and are named by them. -/
def NamedByAccessors (declaration : Declaration) (generated : GeneratedClass) : Prop :=
  List.Forall₂ (fun accessor field =>
      field.name = FieldName.ofAccessor accessor.name ∧ field.accessor = accessor.name)
    declaration.accessors generated.fields

/-- The fields of a class stand for the accessors of a declaration, and their names are distinct. -/
structure StandsFor (declaration : Declaration) (generated : GeneratedClass) : Prop where
  named : NamedByAccessors declaration generated
  apart : (generated.fields.map (·.name)).Nodup

/-- Where no field clashes, no name is taken already and none is repeated. -/
theorem GeneratedClass.nodup_of_clashingField?_eq_none {taken : List String}
    {fields : List GeneratedField} (free : clashingField? taken fields = none) :
    (fields.map (·.name)).Nodup ∧ ∀ name ∈ fields.map (·.name), name ∉ taken := by
  induction fields generalizing taken with
  | nil => exact ⟨List.nodup_nil, nofun⟩
  | cons field rest inductionHypothesis =>
    rw [clashingField?] at free
    split at free
    · cases free
    · rename_i fresh
      obtain ⟨apart, others⟩ := inductionHypothesis free
      rw [List.map_cons, List.nodup_cons, List.forall_mem_cons]
      refine ⟨⟨fun again => others _ again List.mem_cons_self, apart⟩, fresh, ?_⟩
      exact fun name member isTaken => others name member (List.mem_cons_of_mem _ isTaken)

namespace Resolver

variable {State : Type} (resolver : Resolver (StateM State))

theorem ensures_synthesizeField (declaration : Declaration) (accessor : Accessor) :
    Ensures (fun field =>
        field.name = FieldName.ofAccessor accessor.name ∧ field.accessor = accessor.name)
      (resolver.synthesizeField declaration accessor) := by
  unfold synthesizeField
  cases TypeExpr.parse declaration.scope accessor.returnType with
  | error cause => exact .throw _
  | ok type => exact .bind (.nothing _) fun _ _ => .pure ⟨rfl, rfl⟩

theorem ensures_synthesizeAlone (declaration : Declaration) :
    Ensures (StandsFor declaration) (resolver.synthesizeAlone declaration) := by
  unfold synthesizeAlone
  refine .bind (.nothing _) fun name _ => .bind (.nothing _) fun typeParameters _ => ?_
  refine .bind (.mapM _ (resolver.ensures_synthesizeField declaration)) fun fields named => ?_
  cases free : GeneratedClass.clashingField? [] fields with
  | some clash => exact .throw _
  | none => exact .pure ⟨named, (GeneratedClass.nodup_of_clashingField?_eq_none free).1⟩

mutual

theorem ensures_synthesizeNest : (nest : Nest) →
    Ensures (fun generated =>
        List.Forall₂ StandsFor nest.declarations generated.preorder)
      (resolver.synthesizeNest nest)
  | ⟨declaration, inner⟩ => by
    rw [synthesizeNest, Nest.declarations]
    exact .bind (resolver.ensures_synthesizeAlone declaration) fun alone here =>
      .bind (ensures_synthesizeNests inner) fun nested others =>
        .pure (.cons ⟨here.named, here.apart⟩ others)

theorem ensures_synthesizeNests : (nests : List Nest) →
    Ensures (fun made =>
        List.Forall₂ StandsFor (Nest.declarationsOfAll nests)
          (GeneratedClass.preorderOfAll made))
      (resolver.synthesizeNests nests)
  | [] => by
    rw [synthesizeNests, Nest.declarationsOfAll]
    exact .pure .nil
  | nest :: rest => by
    rw [synthesizeNests, Nest.declarationsOfAll]
    exact .bind (ensures_synthesizeNest nest) fun generated here =>
      .bind (ensures_synthesizeNests rest) fun others there => .pure (List.rel_append here there)

end

section Trees

variable {repository : Repository} {suffix : String} {cache : NameCache}
  {declaration : Declaration} {outer : GeneratedClass}

/-- Whatever a cache holds and whether the repository holds the declaration or not, each class of
a tree stands for its declaration. -/
theorem standsFor_preorder
    (made : (((remembering repository suffix).synthesize declaration).run cache).1 = .ok outer) :
    List.Forall₂ StandsFor (repository.nest declaration).declarations outer.preorder :=
  (remembering repository suffix).ensures_synthesizeNest _ cache outer made

/-- In each class of a tree the fields are named by the accessors of its declaration. -/
theorem namedByAccessors_preorder
    (made : (((remembering repository suffix).synthesize declaration).run cache).1 = .ok outer) :
    List.Forall₂ NamedByAccessors (repository.nest declaration).declarations outer.preorder :=
  (standsFor_preorder made).imp fun _ _ => StandsFor.named

end Trees

end Resolver

end ValueGen
