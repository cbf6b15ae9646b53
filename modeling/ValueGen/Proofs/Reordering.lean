/-
This file says what the order of the declarations in a repository means for names, types and
classes. Names and types are found the same, whatever has been asked for before. A class is put
together for the same declarations, and two classes for one declaration differ in the order of the
nested classes only. Where a class cannot be put together, the same interfaces are at fault, and
the order says which of them is told.
-/

import Mathlib.Data.List.Perm.Basic
import ValueGen.Proofs.Repository.Reordering
import ValueGen.Proofs.Synthesis

namespace ValueGen

/-! ### Names -/

section Names

variable {first second : Repository}
  (reordered : first.declarations.Perm second.declarations)

include reordered

theorem Naming.nameWithin_of_perm : Naming.nameWithin first = Naming.nameWithin second := by
  funext suffix strictness parent declaration
  unfold nameWithin
  rw [Repository.markerOf?_of_perm reordered]

theorem Naming.resolve_of_perm : Naming.resolve first = Naming.resolve second := by
  have chains : Naming.resolveChain first = Naming.resolveChain second := by
    funext suffix strictness chain
    induction chain with
    | nil => rfl
    | cons declaration around inductionHypothesis =>
      rw [resolveChain, resolveChain, inductionHypothesis, nameWithin_of_perm reordered]
  funext suffix strictness declaration
  rw [resolve, resolve, Repository.ancestry_of_perm reordered, chains]

/-- Also with a cache names are found the same, whatever it holds. -/
theorem NameCache.resolve_of_perm : NameCache.resolve first = NameCache.resolve second := by
  have chains : NameCache.resolveChain first = NameCache.resolveChain second := by
    funext suffix strictness chain
    induction chain with
    | nil => rfl
    | cons declaration around inductionHypothesis =>
      rw [resolveChain, resolveChain, inductionHypothesis, Naming.nameWithin_of_perm reordered]
  funext suffix strictness declaration
  rw [resolve, resolve, Repository.ancestry_of_perm reordered, chains]

end Names

/-! ### Types -/

namespace Resolver

/-- Two resolvers agree if they know the same declarations by name and give them the same names. -/
structure Agree {m : Type → Type} (first second : Resolver m) : Prop where
  get? : first.repository.get? = second.repository.get?
  resolve : first.resolve = second.resolve

theorem agree_direct {first second : Repository}
    (reordered : first.declarations.Perm second.declarations) (suffix : String) :
    (direct first suffix).Agree (direct second suffix) where
  get? := Repository.get?_of_perm reordered
  resolve := by rw [direct, direct, Naming.resolve_of_perm reordered]

theorem agree_remembering {first second : Repository}
    (reordered : first.declarations.Perm second.declarations) (suffix : String) :
    (remembering first suffix).Agree (remembering second suffix) where
  get? := Repository.get?_of_perm reordered
  resolve := by rw [remembering, remembering, NameCache.resolve_of_perm reordered]

namespace Agree

variable {m : Type → Type} [Monad m] {first second : Resolver m}

theorem strictName (agree : first.Agree second) :
    first.strictName = second.strictName := by
  funext declaration
  rw [Resolver.strictName, Resolver.strictName, agree.resolve]

theorem substitute (agree : first.Agree second) :
    first.substitute = second.substitute := by
  funext name
  have lenient : first.lenientName? = second.lenientName? := by
    funext declaration
    rw [lenientName?, lenientName?, agree.resolve]
  rw [Resolver.substitute, Resolver.substitute, agree.get?, lenient]

mutual

theorem rewrite (agree : first.Agree second) : (type : TypeExpr) →
    first.rewrite type = second.rewrite type
  | .named name => by
    rw [Resolver.rewrite, Resolver.rewrite, agree.substitute]
  | .parameterized raw arguments => by
    rw [Resolver.rewrite, Resolver.rewrite, rewrite agree raw, rewriteAll agree arguments]
  | .unbounded variance => by
    rw [Resolver.rewrite, Resolver.rewrite]
  | .bounded variance bound => by
    rw [Resolver.rewrite, Resolver.rewrite, rewrite agree bound]
  | .array element => by
    rw [Resolver.rewrite, Resolver.rewrite, rewrite agree element]
  | .typeVariable name bounds => by
    rw [Resolver.rewrite, Resolver.rewrite, rewriteAll agree bounds]

theorem rewriteAll (agree : first.Agree second) : (types : List TypeExpr) →
    first.rewriteAll types = second.rewriteAll types
  | [] => by
    rw [Resolver.rewriteAll, Resolver.rewriteAll]
  | type :: rest => by
    rw [Resolver.rewriteAll, Resolver.rewriteAll, rewrite agree type, rewriteAll agree rest]

end

/-- What a declaration gives on its own does not depend on the order. -/
theorem synthesizeAlone (agree : first.Agree second) (declaration : Declaration) :
    first.synthesizeAlone declaration = second.synthesizeAlone declaration := by
  have parameters :
      first.synthesizeTypeParameters declaration = second.synthesizeTypeParameters declaration := by
    unfold synthesizeTypeParameters
    split
    · rfl
    · rw [agree.rewriteAll]
  have fields : first.synthesizeField declaration = second.synthesizeField declaration := by
    funext accessor
    unfold synthesizeField
    split
    · rfl
    · rw [agree.rewrite]
  rw [Resolver.synthesizeAlone, Resolver.synthesizeAlone, agree.strictName, parameters, fields]

end Agree

end Resolver

/-! ### Classes -/

/-- Two classes differ in the order of the classes nested in them, at any depth, and in nothing
else. -/
inductive GeneratedClass.Rearranged : GeneratedClass → GeneratedClass → Prop
  | mk {name : GeneratedName} {source : String} {typeParameters : List TypeExpr}
    {fields : List GeneratedField} {nested between other : List GeneratedClass}
    (reordered : nested.Perm between) (each : List.Forall₂ Rearranged between other) :
    Rearranged ⟨name, source, typeParameters, fields, nested⟩
      ⟨name, source, typeParameters, fields, other⟩

theorem GeneratedClass.Rearranged.name_eq {generated other : GeneratedClass}
    (rearranged : generated.Rearranged other) : generated.name = other.name := by
  cases rearranged
  rfl

/-- Where each item has an outcome of one kind, and with it one of another kind, the outcomes of
the two kinds stand side by side. -/
theorem exists_forall₂_of_forall₂ {Item First Second : Type} {made : Item → First → Prop}
    {again : Item → Second → Prop} {related : First → Second → Prop} {items : List Item}
    {firsts : List First} (sideBySide : List.Forall₂ made items firsts)
    (each : ∀ item ∈ items, ∀ first, made item first →
      ∃ second, again item second ∧ related first second) :
    ∃ seconds, List.Forall₂ again items seconds ∧ List.Forall₂ related firsts seconds := by
  induction sideBySide with
  | nil => exact ⟨[], .nil, .nil⟩
  | cons here _ inductionHypothesis =>
    obtain ⟨each, others⟩ := List.forall_mem_cons.mp each
    obtain ⟨second, there, isRelated⟩ := each _ here
    obtain ⟨seconds, later, areRelated⟩ := inductionHypothesis others
    exact ⟨second :: seconds, .cons there later, .cons isRelated areRelated⟩

namespace Resolver

section Perm

variable {first second : Repository}
  (reordered : first.declarations.Perm second.declarations)

include reordered

/-- Where there is a class for a declaration in one order, there is one in the other order, and they
differ in the order of the nested classes only. -/
theorem exists_rearranged {suffix : String} {declaration : Declaration}
    {generated : GeneratedClass}
    (made : ((direct first suffix).synthesize declaration).run = .ok generated) :
    ∃ other, ((direct second suffix).synthesize declaration).run = .ok other ∧
      generated.Rearranged other := by
  induction declaration using Repository.nest.induct first generalizing generated with
  | case1 declaration inductionHypothesis =>
    obtain ⟨alone, nested, aloneMade, nestedMade, rfl⟩ := run_synthesize_eq_ok_iff.mp made
    rw [(agree_direct reordered suffix).synthesizeAlone] at aloneMade
    have interfaces := Repository.perm_interfacesIn reordered declaration
    obtain ⟨between, betweenMade, arranged⟩ :=
      List.perm_comp_forall₂ interfaces.symm nestedMade
    obtain ⟨others, othersMade, each⟩ := exists_forall₂_of_forall₂ betweenMade
      fun inner found _ made => inductionHypothesis inner (interfaces.mem_iff.mpr found) made
    exact ⟨_, run_synthesize_eq_ok_iff.mpr ⟨alone, others, aloneMade, othersMade, rfl⟩,
      .mk arranged.symm each⟩

/-- A declaration fails in one order exactly if it fails in the other one. -/
theorem fails_iff_of_perm (suffix : String) (declaration : Declaration) :
    (∃ error, ((direct first suffix).synthesize declaration).run = .error error) ↔
      ∃ error, ((direct second suffix).synthesize declaration).run = .error error := by
  have fails {one two : Repository} (reordered : one.declarations.Perm two.declarations)
      (failsInOne : ∃ error, ((direct one suffix).synthesize declaration).run = .error error) :
      ∃ error, ((direct two suffix).synthesize declaration).run = .error error := by
    cases outcome : ((direct two suffix).synthesize declaration).run with
    | error error => exact ⟨error, rfl⟩
    | ok generated =>
      obtain ⟨other, made, _⟩ := exists_rearranged reordered.symm outcome
      obtain ⟨error, failed⟩ := failsInOne
      cases made.symm.trans failed
  exact ⟨fails reordered, fails reordered.symm⟩

end Perm

/-! ### Faults -/

/-- A reason why no class can be put together for a declaration: it is why one of the interfaces in
the declaration gives no class on its own. -/
def Fault (repository : Repository) (suffix : String) (declaration : Declaration)
    (error : GenerationError) : Prop :=
  ∃ inside ∈ (repository.nest declaration).declarations,
    ((direct repository suffix).synthesizeAlone inside).run.run = .error error

theorem fault_of_perm {first second : Repository}
    (reordered : first.declarations.Perm second.declarations) (suffix : String)
    (declaration : Declaration) (error : GenerationError) :
    Fault first suffix declaration error ↔ Fault second suffix declaration error := by
  refine exists_congr fun inside => ?_
  rw [Repository.mem_nest_of_perm reordered, (agree_direct reordered suffix).synthesizeAlone]

/-- The error that is told of a declaration is one of the faults in it. -/
theorem fault_of_error {repository : Repository} {suffix : String} {declaration : Declaration}
    {error : GenerationError}
    (fails : ((direct repository suffix).synthesize declaration).run = .error error) :
    Fault repository suffix declaration error :=
  exists_alone_of_error fails

end Resolver

end ValueGen
