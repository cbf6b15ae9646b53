/-
This file holds the names of generated classes: a package and one simple name for each level of
nesting. There is always an outermost class, so no name is without a simple name. The source of an
outermost class is a compilation unit, which has a path under the output directory.
-/

namespace ValueGen

/-- The name of a generated class. -/
structure GeneratedName where
  package : String
  /-- The simple name of the outermost class. -/
  topLevel : String
  /-- The simple names from the outermost class inwards, without that of the outermost one. -/
  inner : List String
  deriving DecidableEq, Repr

namespace GeneratedName

/-- The simple names from the outermost class inwards. -/
def simpleNames (name : GeneratedName) : List String := name.topLevel :: name.inner

/-- The name of a class nested directly in this one. -/
def nested (name : GeneratedName) (simple : String) : GeneratedName :=
  { name with inner := name.inner ++ [simple] }

/-- The simple name of the class itself. -/
def simpleName (name : GeneratedName) : String := name.inner.getLastD name.topLevel

/-- Whether the class is nested in none. -/
def isTopLevel (name : GeneratedName) : Bool := name.inner.isEmpty

/-- The name of the class around this one, if it is nested. -/
def enclosing? (name : GeneratedName) : Option GeneratedName :=
  if name.isTopLevel then none else some { name with inner := name.inner.dropLast }

/-- The dotted form: the package, if it has a name, and the simple names. -/
def qualified (name : GeneratedName) : String :=
  let simple := ".".intercalate name.simpleNames
  if name.package.isEmpty then simple else name.package ++ "." ++ simple

theorem isTopLevel_nested (name : GeneratedName) (simple : String) :
    (name.nested simple).isTopLevel = false := by
  simp [nested, isTopLevel]

theorem enclosing?_nested (name : GeneratedName) (simple : String) :
    (name.nested simple).enclosing? = some name := by
  rw [enclosing?, isTopLevel_nested]
  simp [nested]

theorem simpleName_nested (name : GeneratedName) (simple : String) :
    (name.nested simple).simpleName = simple := by
  simp [nested, simpleName]

end GeneratedName

/-- A compilation unit: the source of an outermost class, ready to be emitted. -/
structure CompilationUnit where
  name : GeneratedName
  path : String
  source : String
  deriving DecidableEq, Repr

end ValueGen
