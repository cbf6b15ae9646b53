/-
This file rewrites type expressions: every name of a declaration for which a class is generated
becomes the name of that class. The shape of the type, the order of its parts, the directions of
wildcards and the names of type variables stay as they are, and so does every other name.
-/

import ValueGen.Naming.Resolver

namespace ValueGen.Resolver

variable {m : Type → Type} [Monad m]

/-- The name that takes the place of a name in a type. -/
def substitute (resolver : Resolver m) (name : String) : m String :=
  match resolver.repository.get? name with
  | none => pure name
  | some declaration => do
    match ← resolver.lenientName? declaration with
    | some generated => pure generated.qualified
    | none => pure name

mutual

/-- Rewrites a type. -/
def rewrite (resolver : Resolver m) : TypeExpr → m TypeExpr
  | .named name => do
    let name ← resolver.substitute name
    pure (.named name)
  | .parameterized raw arguments => do
    let raw ← rewrite resolver raw
    let arguments ← rewriteAll resolver arguments
    pure (.parameterized raw arguments)
  | .unbounded variance => pure (.unbounded variance)
  | .bounded variance bound => do
    let bound ← rewrite resolver bound
    pure (.bounded variance bound)
  | .array element => do
    let element ← rewrite resolver element
    pure (.array element)
  | .typeVariable name bounds => do
    let bounds ← rewriteAll resolver bounds
    pure (.typeVariable name bounds)

/-- Rewrites several types in order. -/
def rewriteAll (resolver : Resolver m) : List TypeExpr → m (List TypeExpr)
  | [] => pure []
  | type :: rest => do
    let type ← rewrite resolver type
    let rest ← rewriteAll resolver rest
    pure (type :: rest)

end

end ValueGen.Resolver
