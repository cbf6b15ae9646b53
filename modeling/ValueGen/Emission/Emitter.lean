/-
This file emits compilation units. An emitter takes one unit at a time and may refuse it. One
emitter keeps the units in memory in the order in which they come; another one writes each to its
path under an output directory, whose missing parts it makes first; a third one refuses units by
name and leaves the others to another emitter. None of them takes a nested class.
-/

import ValueGen.Disk.Access
import ValueGen.GeneratedName
import ValueGen.GenerationError

namespace ValueGen

/-- A way to emit compilation units. -/
abbrev Emitter (m : Type → Type) := CompilationUnit → m (Except EmissionError Unit)

namespace Emitter

variable {m : Type → Type} [Monad m]

/-- Refuses nested classes and leaves the others to an emitter. -/
def topLevelOnly (emit : Emitter m) : Emitter m := fun unit =>
  if unit.name.isTopLevel then emit unit
  else pure (.error (.notTopLevel unit.name.qualified))

/-- Keeps the units in memory. -/
def inMemory : Emitter (StateM (List CompilationUnit)) :=
  topLevelOnly fun unit => do
    modify (· ++ [unit])
    pure (.ok ())

/-- The first unit in memory with a qualified name. -/
def find? (units : List CompilationUnit) (name : String) : Option CompilationUnit :=
  units.find? (·.name.qualified = name)

/-- Writes the units under an output directory. -/
def toFiles (files : FileAccess m) (root : String) : Emitter m :=
  topLevelOnly fun unit => do
    let path := Path.append root unit.path
    match ← files.ensureDirectories (Path.directoriesAround path) with
    | .error cause => pure (.error (.unwritable path cause))
    | .ok () =>
      match ← files.write path unit.source with
      | .error cause => pure (.error (.unwritable path cause))
      | .ok () => pure (.ok ())

/-- Refuses the units with some qualified names, for a given cause, and leaves the others to an
emitter. -/
def refusing (names : List String) (cause : FileError) (emit : Emitter m) : Emitter m :=
  fun unit =>
    if names.contains unit.name.qualified then pure (.error (.unwritable unit.path cause))
    else emit unit

end Emitter

end ValueGen
