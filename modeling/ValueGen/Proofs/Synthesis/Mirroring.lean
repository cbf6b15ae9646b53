/-
This file says that a class tree mirrors the declarations it is made from. A tree is built downwards
through the interfaces nested in a declaration, and each class in it is named upwards through what
its declaration is nested in; the two agree at every level. So the classes of a tree stand one to
one for the declarations embedded in its root, siblings in the order of discovery, each with the
strict name of its declaration, nested in the class of the declaration around it, and with a field
for each accessor.
-/

import ValueGen.Proofs.Synthesis

namespace ValueGen

variable {repository : Repository} {suffix : String} {declaration : Declaration}

/-! ### One class -/

/-- A field stands for an accessor: it has the field name of the accessor, returns through it, and
its type is the rewritten type of the accessor. -/
structure FieldOf (repository : Repository) (suffix : String) (declaration : Declaration)
    (accessor : Accessor) (field : GeneratedField) : Prop where
  name : field.name = FieldName.ofAccessor accessor.name
  returns : field.accessor = accessor.name
  type : ∃ type, TypeExpr.parse declaration.scope accessor.returnType = .ok type ∧
    field.type = ((Resolver.direct repository suffix).rewrite type).run

/-- What a class has from the declaration that it stands for. -/
structure Mirrors (repository : Repository) (suffix : String) (declaration : Declaration)
    (generated : GeneratedClass) : Prop where
  source : generated.source = declaration.qualifiedName
  /-- The class has the strict name of the declaration. -/
  name : Naming.resolve repository suffix .strict declaration = .ok (some generated.name)
  /-- The type parameters are those of the declaration, rewritten. -/
  typeParameters : ∃ parameters, declaration.parseTypeParameters = .ok parameters ∧
    generated.typeParameters = ((Resolver.direct repository suffix).rewriteAll parameters).run
  /-- The fields follow the accessors. -/
  fields : List.Forall₂ (FieldOf repository suffix declaration) declaration.accessors
    generated.fields
  /-- The classes nested in the class follow the interfaces nested in the declaration, in the order
  of discovery, and their names are those of classes nested in this one. -/
  nested : List.Forall₂
    (fun inner made => made.source = inner.qualifiedName ∧
      made.name.enclosing? = some generated.name)
    (repository.declarations.filter fun inner =>
      inner.enclosing = some declaration.qualifiedName ∧ inner.kind = .interface)
    generated.nested

namespace Resolver

theorem fieldOf_of_synthesizeField {accessor : Accessor} {field : GeneratedField}
    (made : ((direct repository suffix).synthesizeField declaration accessor).run.run =
      .ok field) : FieldOf repository suffix declaration accessor field := by
  unfold synthesizeField at made
  cases parsed : TypeExpr.parse declaration.scope accessor.returnType with
  | error cause =>
    rw [parsed] at made
    cases made
  | ok type =>
    rw [parsed] at made
    rw [← Except.ok.inj made]
    exact ⟨rfl, rfl, type, parsed, rfl⟩

theorem rewritten_of_synthesizeTypeParameters {types : List TypeExpr}
    (made : ((direct repository suffix).synthesizeTypeParameters declaration).run.run =
      .ok types) :
    ∃ parameters, declaration.parseTypeParameters = .ok parameters ∧
      types = ((direct repository suffix).rewriteAll parameters).run := by
  unfold synthesizeTypeParameters at made
  cases parsed : declaration.parseTypeParameters with
  | error cause =>
    rw [parsed] at made
    cases made
  | ok parameters =>
    rw [parsed] at made
    exact ⟨parameters, rfl, (Except.ok.inj made).symm⟩

/-- The class put together for a declaration mirrors it. -/
theorem mirrors_of_synthesize (member : declaration ∈ repository.declarations)
    {generated : GeneratedClass}
    (made : ((direct repository suffix).synthesize declaration).run = .ok generated) :
    Mirrors repository suffix declaration generated := by
  have named := (generatedFor_of_synthesize made).2.resolve_strict
  obtain ⟨alone, nested, aloneMade, nestedMade, rfl⟩ := run_synthesize_eq_ok_iff.mp made
  obtain ⟨_, source, parametersMade, fieldsMade, _⟩ := parts_of_synthesizeAlone aloneMade
  refine ⟨source, named, rewritten_of_synthesizeTypeParameters parametersMade,
    fieldsMade.imp fun _ _ => fieldOf_of_synthesizeField, ?_⟩
  rw [← repository.interfacesIn_eq_filter]
  refine List.forall₂_iff_zip.mpr ⟨nestedMade.length_eq, fun {inner other} paired => ?_⟩
  have innerMade := (List.forall₂_iff_zip.mp nestedMade).2 paired
  have around := Repository.enclosingOf?_of_mem_interfacesIn member (List.of_mem_zip paired).1
  have innerFor := (generatedFor_of_synthesize innerMade).2
  have innerNamed := innerFor.resolve_strict
  rw [Naming.resolve_of_enclosing suffix .strict around named] at innerNamed
  refine ⟨innerFor.source_eq, ?_⟩
  rw [← Option.some.inj (Except.ok.inj innerNamed)]
  exact GeneratedName.enclosing?_nested _ _

end Resolver

/-! ### The tree -/

/-- The classes of several trees follow the declarations of the trees they are made from. -/
theorem forall₂_declarationsOfAll {related : Declaration → GeneratedClass → Prop}
    {inners : List Declaration} {made : List GeneratedClass}
    (each : List.Forall₂ (fun inner generated =>
      List.Forall₂ related (repository.nest inner).declarations generated.preorder) inners made) :
    List.Forall₂ related (Nest.declarationsOfAll (inners.map repository.nest))
      (GeneratedClass.preorderOfAll made) := by
  induction each with
  | nil => exact .nil
  | cons here _ inductionHypothesis => exact List.rel_append here inductionHypothesis

/-- Each class in the tree put together for a declaration mirrors its declaration. -/
theorem Resolver.mirrors_preorder (member : declaration ∈ repository.declarations)
    {generated : GeneratedClass}
    (made : ((direct repository suffix).synthesize declaration).run = .ok generated) :
    List.Forall₂ (Mirrors repository suffix) (repository.nest declaration).declarations
      generated.preorder := by
  induction declaration using Repository.nest.induct repository generalizing generated with
  | case1 declaration inductionHypothesis =>
    have root := mirrors_of_synthesize member made
    obtain ⟨alone, nested, _, nestedMade, rfl⟩ := run_synthesize_eq_ok_iff.mp made
    rw [repository.nest_eq, Nest.declarations, GeneratedClass.preorder]
    refine .cons root (forall₂_declarationsOfAll ?_)
    refine List.forall₂_iff_zip.mpr ⟨nestedMade.length_eq, fun {inner other} paired => ?_⟩
    have found := (List.of_mem_zip paired).1
    exact inductionHypothesis inner found ((Repository.mem_interfacesIn_iff _ _ _).mp found).1
      ((List.forall₂_iff_zip.mp nestedMade).2 paired)

/-- What a class tree has from the declarations of a repository. -/
structure MirrorsTree (repository : Repository) (suffix : String) (root : Declaration)
    (outer : GeneratedClass) : Prop where
  /-- The outermost class stands for the root. -/
  outermost : Mirrors repository suffix root outer
  /-- The classes in preorder stand for the declarations in the root, each with those nested in it
  in the order of discovery. -/
  nodes : List.Forall₂ (Mirrors repository suffix) (repository.nest root).declarations
    outer.preorder
  /-- These are the root and the declarations that reach it through interfaces, all of them. -/
  embedded : ∀ inside,
    inside ∈ (repository.nest root).declarations ↔ repository.EmbeddedIn root inside
  /-- None of them stands twice. -/
  once : (repository.nest root).declarations.Nodup
  /-- All classes are in one package. -/
  package : ∀ generated ∈ outer.preorder, generated.name.package = outer.name.package
  /-- The outermost class is nested in none exactly where the root is nested in none that the
  repository holds. -/
  topLevel : outer.isTopLevel ↔ repository.enclosingOf? root = none

/-- Whatever has been asked for before, the tree put together for a declaration mirrors the
declarations in it. -/
theorem mirrorsTree_synthesize_after (repository : Repository) (suffix : String)
    (earlier : List (Strictness × Declaration))
    (known : ∀ call ∈ earlier, call.2 ∈ repository.declarations) (root : Declaration)
    (member : root ∈ repository.declarations) (outer : GeneratedClass)
    (made : (((Resolver.remembering repository suffix).synthesize root).run
      (NameCache.after repository suffix earlier)).1 = .ok outer) :
    MirrorsTree repository suffix root outer := by
  have sound := NameCache.sound_after suffix earlier known
  rw [(NameCache.yields_synthesize member _ sound).1] at made
  have mirrors := Resolver.mirrors_of_synthesize member made
  have nodes := Resolver.mirrors_preorder member made
  refine ⟨mirrors, nodes, repository.mem_nest_iff_embeddedIn member, repository.nodup_nest member,
    fun generated inside => ?_, ?_⟩
  · obtain ⟨declaration, nested, mirrored⟩ := exists_mem_of_mem_right nodes inside
    obtain ⟨name, named, samePackage⟩ := Naming.exists_resolve_of_embeddedIn suffix .strict
      ((Repository.mem_nest_iff_embeddedIn member declaration).mp nested) mirrors.name
    rw [mirrored.name] at named
    rw [Option.some.inj (Except.ok.inj named), samePackage]
  · rw [(Resolver.generatedFor_of_synthesize made).2.isTopLevel_iff,
      repository.enclosingOf?_eq_none_iff]

/-- A marked interface with interfaces nested in it in two levels, one of them with a marker of its
own, and with an interface in a declaration that is no interface. What is further in has been
discovered first. -/
def orderRepository : Repository :=
  let order := ((Declaration.interface "shop" "OrderPOJO").withMarker .plain).withTypeParameter
    ⟨"T", ["java.lang.Comparable<T>"]⟩
  let order := order.withAccessor ⟨"getLines", "java.util.List<shop.OrderPOJO.Line>"⟩
  let order := order.withAccessor ⟨"isKey", "T"⟩
  let line := (Declaration.interface "shop" "Line").nestIn order
  let item := (((Declaration.interface "shop" "Item").nestIn line).withMarker
    ⟨some "Article"⟩).withAccessor ⟨"order", "shop.OrderPOJO<shop.OrderPOJO.Status.Code>"⟩
  let status := (Declaration.new "shop" "Status" .other).nestIn order
  let code := (Declaration.interface "shop" "Code").nestIn status
  let note := (Declaration.interface "shop" "Note").nestIn order
  ⟨[item, note, code, order, status, line], by decide⟩

/-- What comes of the marked interface, once the name of one nested in it has been asked for. -/
def orderOutcome : Except GenerationError GeneratedClass :=
  (((Resolver.remembering orderRepository "POJO").synthesize orderRepository.declarations[3]).run
    (NameCache.after orderRepository "POJO" [(.lenient, orderRepository.declarations[5])])).1

/-- There is a tree for the marked interface, and it mirrors the four interfaces in it. -/
theorem mirrorsTree_synthesize_order :
    (∀ call ∈ [(Strictness.lenient, orderRepository.declarations[5])],
        call.2 ∈ orderRepository.declarations) ∧
      orderRepository.declarations[3] ∈ orderRepository.declarations ∧
      ∃ outer, orderOutcome = .ok outer ∧
        MirrorsTree orderRepository "POJO" orderRepository.declarations[3] outer := by
  have succeeds : orderOutcome.isOk := by decide +kernel
  refine ⟨by decide, by decide, ?_⟩
  cases made : orderOutcome with
  | error error =>
    rw [made] at succeeds
    cases succeeds
  | ok outer =>
    exact ⟨outer, rfl, mirrorsTree_synthesize_after orderRepository "POJO"
      [(.lenient, orderRepository.declarations[5])] (by decide) orderRepository.declarations[3]
      (by decide) outer made⟩

/-- What is nested in a declaration that is no interface is not embedded. -/
example :
    (orderRepository.nest orderRepository.declarations[3]).declarations.map (·.name) =
      ["OrderPOJO", "Note", "Line", "Item"] := by
  decide +kernel

end ValueGen
