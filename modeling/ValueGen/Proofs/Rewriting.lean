/-
This file says what rewriting does to the names in a type. Rewriting replaces each name on its own
by the name of the class generated for the declaration with that name, where there is such a class,
and does nothing else. So the names of a rewritten type are those of the type, one by one and in
the same order, each replaced.
-/

import ValueGen.Proofs.Naming.Remembering

namespace ValueGen

namespace TypeExpr

mutual

/-- The names of classes, interfaces and primitive types in a type, from left to right. -/
def leaves : TypeExpr → List String
  | named name => [name]
  | parameterized raw arguments => raw.leaves ++ leavesOfAll arguments
  | unbounded _ => []
  | bounded _ bound => bound.leaves
  | array element => element.leaves
  | typeVariable _ bounds => leavesOfAll bounds

/-- The names in several types in order. -/
def leavesOfAll : List TypeExpr → List String
  | [] => []
  | type :: rest => type.leaves ++ leavesOfAll rest

end

/-! ### Names replaced one by one -/

mutual

/-- The type with a type in the place of each name of a class, an interface or a primitive type. -/
def mapLeaves (leaf : String → TypeExpr) : TypeExpr → TypeExpr
  | named name => leaf name
  | parameterized raw arguments =>
    parameterized (raw.mapLeaves leaf) (mapLeavesOfAll leaf arguments)
  | unbounded variance => unbounded variance
  | bounded variance bound => bounded variance (bound.mapLeaves leaf)
  | array element => array (element.mapLeaves leaf)
  | typeVariable name bounds => typeVariable name (mapLeavesOfAll leaf bounds)

/-- Several types with a type in the place of each name. -/
def mapLeavesOfAll (leaf : String → TypeExpr) : List TypeExpr → List TypeExpr
  | [] => []
  | type :: rest => type.mapLeaves leaf :: mapLeavesOfAll leaf rest

end

theorem mapLeavesOfAll_eq_map (leaf : String → TypeExpr) (types : List TypeExpr) :
    mapLeavesOfAll leaf types = types.map (mapLeaves leaf) := by
  induction types with
  | nil => rfl
  | cons type rest inductionHypothesis =>
    rw [mapLeavesOfAll, inductionHypothesis, List.map_cons]

/-- The type with each name replaced by another name. -/
def mapNames (replace : String → String) : TypeExpr → TypeExpr :=
  mapLeaves fun name => named (replace name)

mutual

theorem leaves_mapNames (replace : String → String) : (type : TypeExpr) →
    (type.mapNames replace).leaves = type.leaves.map replace
  | named _ => rfl
  | parameterized raw arguments => by
    rw [mapNames, mapLeaves, ← mapNames, leaves, leaves, List.map_append,
      leaves_mapNames replace raw, leavesOfAll_mapLeavesOfAll replace arguments]
  | unbounded _ => rfl
  | bounded _ bound => leaves_mapNames replace bound
  | array element => leaves_mapNames replace element
  | typeVariable _ bounds => leavesOfAll_mapLeavesOfAll replace bounds

theorem leavesOfAll_mapLeavesOfAll (replace : String → String) : (types : List TypeExpr) →
    leavesOfAll (mapLeavesOfAll (fun name => named (replace name)) types) =
      (leavesOfAll types).map replace
  | [] => rfl
  | type :: rest => by
    rw [mapLeavesOfAll, ← mapNames, leavesOfAll, leavesOfAll, List.map_append,
      leaves_mapNames replace type, leavesOfAll_mapLeavesOfAll replace rest]

end

end TypeExpr

namespace Resolver

variable (repository : Repository) (suffix : String)

/-- A name of a declaration with a lenient name is replaced by that name. -/
theorem run_substitute_of_named {name : String} {declaration : Declaration}
    {generated : GeneratedName} (found : repository.get? name = some declaration)
    (named : Naming.resolve repository suffix .lenient declaration = .ok (some generated)) :
    ((direct repository suffix).substitute name).run = generated.qualified := by
  have lenient : ((direct repository suffix).lenientName? declaration).run = some generated := by
    rw [NameCache.run_lenientName?_direct, named]
  unfold substitute
  simp only [direct] at lenient ⊢
  rw [found]
  simp only
  rw [Id.run_bind, lenient]
  rfl

mutual

/-- Rewriting replaces each name on its own. -/
theorem run_rewrite_direct : (type : TypeExpr) →
    ((direct repository suffix).rewrite type).run =
      type.mapNames fun name => ((direct repository suffix).substitute name).run
  | .named name => by
    rw [rewrite]
    rfl
  | .parameterized raw arguments => by
    rw [rewrite, TypeExpr.mapNames, TypeExpr.mapLeaves, ← TypeExpr.mapNames,
      ← run_rewrite_direct raw, ← run_rewriteAll_direct arguments]
    rfl
  | .unbounded variance => by
    rw [rewrite]
    rfl
  | .bounded variance bound => by
    rw [rewrite, TypeExpr.mapNames, TypeExpr.mapLeaves, ← TypeExpr.mapNames,
      ← run_rewrite_direct bound]
    rfl
  | .array element => by
    rw [rewrite, TypeExpr.mapNames, TypeExpr.mapLeaves, ← TypeExpr.mapNames,
      ← run_rewrite_direct element]
    rfl
  | .typeVariable name bounds => by
    rw [rewrite, TypeExpr.mapNames, TypeExpr.mapLeaves, ← run_rewriteAll_direct bounds]
    rfl

theorem run_rewriteAll_direct : (types : List TypeExpr) →
    ((direct repository suffix).rewriteAll types).run =
      TypeExpr.mapLeavesOfAll
        (fun name => .named ((direct repository suffix).substitute name).run) types
  | [] => by
    rw [rewriteAll]
    rfl
  | type :: rest => by
    rw [rewriteAll, TypeExpr.mapLeavesOfAll, ← TypeExpr.mapNames, ← run_rewrite_direct type,
      ← run_rewriteAll_direct rest]
    rfl

end

theorem leaves_rewrite (type : TypeExpr) :
    ((direct repository suffix).rewrite type).run.leaves =
      type.leaves.map fun name => ((direct repository suffix).substitute name).run := by
  rw [run_rewrite_direct, TypeExpr.leaves_mapNames]

theorem leavesOfAll_rewriteAll (types : List TypeExpr) :
    TypeExpr.leavesOfAll ((direct repository suffix).rewriteAll types).run =
      (TypeExpr.leavesOfAll types).map fun name =>
        ((direct repository suffix).substitute name).run := by
  rw [run_rewriteAll_direct, TypeExpr.leavesOfAll_mapLeavesOfAll]

end Resolver

end ValueGen
