/-
This file holds generated classes and puts them together. A class has a field for each accessor of
its declaration and contains the classes of the interfaces nested in that declaration. Whether a
class can be put together is checked from the outside in: its name, its type parameters, the types
of its accessors in order, its field names, and then the nested interfaces in the order of
discovery; the first check that fails is the error.
-/

import ValueGen.FieldName
import ValueGen.Rewrite

namespace ValueGen

/-- A field of a generated class, with the accessor that returns it. -/
structure GeneratedField where
  name : String
  accessor : String
  type : TypeExpr
  deriving DecidableEq, Repr

/-- A generated class with the classes nested in it. -/
structure GeneratedClass where
  name : GeneratedName
  /-- The qualified name of the declaration that the class is generated for. -/
  source : String
  typeParameters : List TypeExpr
  fields : List GeneratedField
  nested : List GeneratedClass
  deriving Repr

namespace GeneratedClass

/-- Whether the class is nested in none. -/
def isTopLevel (generated : GeneratedClass) : Bool := generated.name.isTopLevel

/-- The first field whose name is among those already taken or repeats that of an earlier one. -/
def clashingField? (taken : List String) : List GeneratedField → Option GeneratedField
  | [] => none
  | field :: rest =>
    if field.name ∈ taken then some field else clashingField? (field.name :: taken) rest

end GeneratedClass

namespace Resolver

variable {m : Type → Type} [Monad m]

/-- The name of a member of a declaration, as errors give it. -/
def memberName (declaration : Declaration) (accessor : String) : String :=
  declaration.qualifiedName ++ "#" ++ accessor

/-- The type parameters of a class, with rewritten bounds. -/
def synthesizeTypeParameters (resolver : Resolver m) (declaration : Declaration) :
    ExceptT GenerationError m (List TypeExpr) :=
  match declaration.parseTypeParameters with
  | .error cause => throw (.invalidType declaration.qualifiedName cause)
  | .ok parameters => resolver.rewriteAll parameters

/-- The field of a class for an accessor, with a rewritten type. -/
def synthesizeField (resolver : Resolver m) (declaration : Declaration) (accessor : Accessor) :
    ExceptT GenerationError m GeneratedField :=
  match TypeExpr.parse declaration.scope accessor.returnType with
  | .error cause => throw (.invalidType (memberName declaration accessor.name) cause)
  | .ok type => do
    let type ← resolver.rewrite type
    pure ⟨FieldName.ofAccessor accessor.name, accessor.name, type⟩

/-- A class without the classes nested in it. -/
def synthesizeAlone (resolver : Resolver m) (declaration : Declaration) :
    ExceptT GenerationError m GeneratedClass := do
  let name ← ExceptT.mk (resolver.strictName declaration)
  let typeParameters ← resolver.synthesizeTypeParameters declaration
  let fields ← declaration.accessors.mapM (resolver.synthesizeField declaration)
  match GeneratedClass.clashingField? [] fields with
  | some clash => throw (.duplicateField (memberName declaration clash.accessor) clash.name)
  | none => pure ⟨name, declaration.qualifiedName, typeParameters, fields, []⟩

mutual

/-- The class for a declaration, with the classes for the interfaces nested in it. -/
def synthesizeNest (resolver : Resolver m) : Nest → ExceptT GenerationError m GeneratedClass
  | ⟨declaration, inner⟩ => do
    let generated ← resolver.synthesizeAlone declaration
    let nested ← synthesizeNests resolver inner
    pure { generated with nested := nested }

/-- The classes for several declarations in order. -/
def synthesizeNests (resolver : Resolver m) :
    List Nest → ExceptT GenerationError m (List GeneratedClass)
  | [] => pure []
  | nest :: rest => do
    let generated ← synthesizeNest resolver nest
    let others ← synthesizeNests resolver rest
    pure (generated :: others)

end

/-- The class for a declaration, or the first reason why there is none. -/
def synthesize (resolver : Resolver m) (declaration : Declaration) :
    m (Except GenerationError GeneratedClass) :=
  (resolver.synthesizeNest (resolver.repository.nest declaration)).run

end Resolver

end ValueGen
