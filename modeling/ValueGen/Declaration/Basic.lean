/-
This file holds the declarations that a source tree consists of: their names, where they are
nested, the marker and the annotations they carry, their type parameters and their accessors. The
text of types is kept as it was written and is read when it is asked for.
-/

import ValueGen.Text.Character
import ValueGen.TypeExpr.Parser

namespace ValueGen

/-- The shape of a declaration. -/
inductive DeclarationKind
  /-- An interface, the only shape that a class is generated for. -/
  | interface
  /-- An annotation type that can carry the marker and passes it to what it annotates. -/
  | markerGroup
  /-- Any other shape. -/
  | other
  deriving DecidableEq, Repr

/-- The marker of a declaration, which may name the class to be generated. -/
structure Marker where
  name : Option String
  deriving DecidableEq, Repr

/-- The marker without a name. -/
def Marker.plain : Marker := ⟨none⟩

/-- The name that the marker gives, unless it is blank. -/
def Marker.explicitName? (marker : Marker) : Option String :=
  marker.name.filter fun name => !Text.isBlank name

/-- A type parameter with the text of its bounds. -/
structure TypeParameter where
  name : String
  bounds : List String
  deriving DecidableEq, Repr

/-- An accessor: a method without parameters, with the text of its return type. -/
structure Accessor where
  name : String
  returnType : String
  deriving DecidableEq, Repr

/-- A declaration. -/
structure Declaration where
  /-- The simple name. -/
  name : String
  /-- The package, empty for the default package. -/
  package : String
  /-- The qualified name of the declaration that this one is nested in. -/
  enclosing : Option String
  kind : DeclarationKind
  marker : Option Marker
  /-- The qualified names of the annotations. -/
  annotations : List String
  typeParameters : List TypeParameter
  accessors : List Accessor
  deriving DecidableEq, Repr

namespace Declaration

/-! ### Building declarations -/

/-- A declaration that is nested in none and carries nothing. -/
def new (package name : String) (kind : DeclarationKind) : Declaration :=
  ⟨name, package, none, kind, none, [], [], []⟩

/-- An interface that is nested in none and carries nothing. -/
def interface (package name : String) : Declaration := new package name .interface

/-- Puts a marker on the declaration. -/
def withMarker (declaration : Declaration) (marker : Marker) : Declaration :=
  { declaration with marker := some marker }

/-- Adds an annotation, given by its name, after those the declaration has. -/
def withAnnotation (declaration : Declaration) (name : String) : Declaration :=
  { declaration with annotations := declaration.annotations ++ [name] }

/-- Adds a type parameter after those the declaration has. -/
def withTypeParameter (declaration : Declaration) (parameter : TypeParameter) : Declaration :=
  { declaration with typeParameters := declaration.typeParameters ++ [parameter] }

/-- Adds an accessor after those the declaration has. -/
def withAccessor (declaration : Declaration) (accessor : Accessor) : Declaration :=
  { declaration with accessors := declaration.accessors ++ [accessor] }

/-! ### Names -/

/-- The qualified name: the simple name after that of the enclosing declaration or, for a
declaration that is nested in none, after the package. -/
def qualifiedName (declaration : Declaration) : String :=
  match declaration.enclosing with
  | some enclosing => enclosing ++ "." ++ declaration.name
  | none =>
    if declaration.package.isEmpty then declaration.name
    else declaration.package ++ "." ++ declaration.name

/-- Whether the declaration is nested in none. -/
def isTopLevel (declaration : Declaration) : Bool := declaration.enclosing.isNone

/-- Nests the declaration in another one, whose package it takes over. -/
def nestIn (declaration parent : Declaration) : Declaration :=
  { declaration with package := parent.package, enclosing := some parent.qualifiedName }

/-- A nested declaration has a longer name than the one it is nested in. -/
theorem length_qualifiedName {declaration : Declaration} {enclosing : String}
    (nested : declaration.enclosing = some enclosing) :
    enclosing.length < declaration.qualifiedName.length := by
  have point : ".".length = 1 := rfl
  rw [qualifiedName, nested, String.length_append, String.length_append, point]
  omega

/-! ### Type parameters -/

/-- The names of the type parameters, which are the type variables in scope. -/
def scope (declaration : Declaration) : List String :=
  declaration.typeParameters.map (·.name)

/-- Reads a type parameter. What its bounds mention in scope are bare type variables, so that a
bound may mention its own parameter. -/
def parseTypeParameter (scope : List String) (parameter : TypeParameter) :
    Except TypeSyntaxError TypeExpr := do
  let bounds ← parameter.bounds.mapM (TypeExpr.parse scope)
  pure (.typeVariable parameter.name bounds)

/-- Reads the type parameters, up to the first error. -/
def parseTypeParameters (declaration : Declaration) : Except TypeSyntaxError (List TypeExpr) :=
  declaration.typeParameters.mapM (parseTypeParameter declaration.scope)

end Declaration

end ValueGen
