/-
This file says how a generated class is named. A class generated for a marked declaration that
stands on its own gets a name of its own: the suffix is taken off the name of the declaration or,
if it is not there, put on. A class generated for a declaration within a generated one keeps the
simple name. A name given by the marker goes before either.
-/

import ValueGen.GeneratedName
import ValueGen.GenerationError
import ValueGen.Repository.Marking
import ValueGen.Repository.Nesting

namespace ValueGen

/-- How the search for a generated name treats a declaration that is not generated: a strict one
fails, a lenient one finds no name. -/
inductive Strictness
  | strict
  | lenient
  deriving DecidableEq, Repr

namespace Naming

/-- Takes the suffix off a name that is longer than the suffix and ends with it; puts the suffix
on any other name. -/
def toggleSuffix (suffix name : String) : String :=
  match suffix.toList.isSuffixOf? name.toList with
  | some (first :: rest) => String.ofList (first :: rest)
  | _ => name ++ suffix

/-- The simple name of the class generated for a declaration with a marker in effect, or none,
inside the class generated for the declaration around it, or none. -/
def localName (suffix : String) (marker : Option Marker) (parent : Option GeneratedName)
    (declaration : Declaration) : String :=
  match marker.bind (·.explicitName?) with
  | some explicit => explicit
  | none =>
    if parent.isNone && marker.isSome then toggleSuffix suffix declaration.name
    else declaration.name

/-- The name of the class generated for a declaration, given that of the declaration around it. A
declaration is generated if it is marked in effect or lies within a generated one. -/
def nameWithin (repository : Repository) (suffix : String) (strictness : Strictness)
    (parent : Option GeneratedName) (declaration : Declaration) :
    Except GenerationError (Option GeneratedName) :=
  let marker := repository.markerOf? declaration
  if marker.isNone && parent.isNone then
    match strictness with
    | .strict => .error (.missingMarker declaration.qualifiedName)
    | .lenient => .ok none
  else
    let simple := localName suffix marker parent declaration
    match parent with
    | some parent => .ok (some (parent.nested simple))
    | none => .ok (some ⟨declaration.package, simple, []⟩)

/-- The generated name of the first declaration of a chain in which each is nested in the next. -/
def resolveChain (repository : Repository) (suffix : String) (strictness : Strictness) :
    List Declaration → Except GenerationError (Option GeneratedName)
  | [] => .ok none
  | declaration :: around => do
    let parent ← resolveChain repository suffix strictness around
    nameWithin repository suffix strictness parent declaration

/-- The generated name of a declaration. -/
def resolve (repository : Repository) (suffix : String) (strictness : Strictness)
    (declaration : Declaration) : Except GenerationError (Option GeneratedName) :=
  resolveChain repository suffix strictness (repository.ancestry declaration)

end Naming

end ValueGen
