/-
This file holds the accesses to files that the program makes, apart from what they are made to:
whether something is there, reading a text, making directories, and writing a text. On a disk that
is a value they are functions on the disk.
-/

import ValueGen.Disk.Basic

namespace ValueGen

/-- A way to access files. -/
structure FileAccess (m : Type → Type) where
  /-- Whether a path leads to anything. -/
  holds : String → m Bool
  /-- The text of a file. -/
  read : String → m (Except FileError String)
  /-- Makes a directory and the directories around it, given from the inside out. -/
  ensureDirectories : List Path.Ancestor → m (Except FileError Unit)
  /-- Writes a text to a file. -/
  write : String → String → m (Except FileError Unit)

/-- The accesses to a disk that is a value. -/
def Disk.access : FileAccess (StateM Disk) where
  holds path := do
    let disk ← get
    pure (disk.holds path)
  read path := do
    let disk ← get
    pure (disk.read path)
  ensureDirectories directories := do
    let disk ← get
    let (outcome, disk) := disk.ensureDirectories directories
    set disk
    pure outcome
  write path text := do
    let disk ← get
    match disk.write path text with
    | .ok disk =>
      set disk
      pure (.ok ())
    | .error error => pure (.error error)

end ValueGen
