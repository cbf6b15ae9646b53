/-
This file holds a disk as a value: a tree of directories with text files in it, and a working
directory. It says what becomes of a path that leads through it, when a directory can be made and
when a file can be written. A way up leaves a directory that has to be there, and what has been
made before an access fails stays. A failed access is told as the operating system tells it, with
its number.
-/

import ValueGen.Path

namespace ValueGen

/-- The reason why an access to a file fails. -/
inductive FileError
  /-- A part of the path does not exist. -/
  | notFound
  /-- What is to be created is there already. -/
  | alreadyExists
  /-- A file stands where the path needs a directory. -/
  | notADirectory
  /-- The path leads to a directory where a file is needed. -/
  | isADirectory
  /-- The path, or a name in it, is longer than one can be. -/
  | nameTooLong
  /-- The path holds a character with which no path can go on. -/
  | nulCharacter
  /-- Another reason, in its own words. -/
  | other (description : String)
  deriving DecidableEq, Repr

/-- The wording of an error. -/
def FileError.message : FileError → String
  | notFound => "No such file or directory (os error 2)"
  | alreadyExists => "File exists (os error 17)"
  | notADirectory => "Not a directory (os error 20)"
  | isADirectory => "Is a directory (os error 21)"
  | nameTooLong => "File name too long (os error 36)"
  | nulCharacter => "file name contained an unexpected NUL byte"
  | other description => description

/-- What has a name in a directory. -/
inductive DiskEntry
  | file (text : String)
  | directory (contents : List (String × DiskEntry))

/-- What a directory contains, by name. -/
abbrev Folder := List (String × DiskEntry)

/-- Puts an entry into a directory, in place of the one that has the name. -/
def Folder.put (folder : Folder) (name : String) (entry : DiskEntry) : Folder :=
  (name, entry) :: folder.filter (·.1 ≠ name)

/-- A disk. -/
structure Disk where
  /-- The contents of the root. -/
  root : Folder
  /-- The names that lead from the root to the working directory. -/
  workingDirectory : List String

/-! ### Walking -/

/-- The number of bytes that a name can have. -/
def Disk.longestName : Nat := 255

/-- The number of bytes that a path can have. -/
def Disk.longestPath : Nat := 4095

/-- Fails if a name is too long. -/
def Disk.requireShort (name : String) : Except FileError Unit :=
  if longestName < name.utf8ByteSize then .error .nameTooLong else .ok ()

/-- Fails if no access takes the path: it is too long, or it holds a character with which no path
can go on. -/
def Disk.requireUsable (path : String) : Except FileError Unit :=
  if path.toList.contains '\x00' then .error .nulCharacter
  else if longestPath < path.utf8ByteSize then .error .nameTooLong
  else .ok ()

/-- A directory of a disk, as one comes to it from the root. -/
structure Place where
  contents : Folder
  /-- The directories around it, from the inside out, each with the name in it that leads here. -/
  around : List (String × Folder)

namespace Place

/-- Enters a directory by name. -/
def enter (place : Place) (name : String) : Except FileError Place := do
  Disk.requireShort name
  match place.contents.lookup name with
  | some (.directory contents) => .ok ⟨contents, (name, place.contents) :: place.around⟩
  | some (.file _) => .error .notADirectory
  | none => .error .notFound

/-- Leaves a directory for the one around it; from the root nothing leads up. -/
def leave (place : Place) : Place :=
  match place.around with
  | [] => place
  | (_, outer) :: around => ⟨outer, around⟩

/-- Follows the parts of a path. -/
def walk (place : Place) : List String → Except FileError Place
  | [] => .ok place
  | part :: rest =>
    if part = "." then place.walk rest
    else if part = ".." then place.leave.walk rest
    else do
      let inner ← place.enter part
      inner.walk rest

/-- The contents of the root after an entry has been put into the directory. -/
def put (place : Place) (name : String) (entry : DiskEntry) : Folder :=
  place.around.foldl (fun inner (name, outer) => Folder.put outer name (.directory inner))
    (Folder.put place.contents name entry)

end Place

namespace Disk

/-- Where a path starts. -/
def start (disk : Disk) (path : String) : Except FileError Place :=
  let root : Place := ⟨disk.root, []⟩
  if Path.isAbsolute path then .ok root else root.walk disk.workingDirectory

/-- Where a path ends: a name in a directory that is there. -/
structure Target where
  place : Place
  name : String

/-- What stands at the target. -/
def Target.entry? (target : Target) : Option DiskEntry := target.place.contents.lookup target.name

/-- Where a path ends; nothing for a path that ends with a directory it does not name, such as the
root. -/
def aim (disk : Disk) (path : String) : Except FileError (Option Target) := do
  requireUsable path
  let start ← disk.start path
  match (Path.parts path).reverse with
  | [] => if Path.isAbsolute path then pure none else throw .notFound
  | last :: before => do
    let place ← start.walk before.reverse
    if last = "." || last = ".." then pure none else pure (some ⟨place, last⟩)

/-- Whether the path ends with a slash and so can only mean a directory. -/
def meansDirectory (path : String) : Bool := path.toList.getLast? = some '/'

/-- Puts an entry at a target. -/
def put (disk : Disk) (target : Target) (entry : DiskEntry) : Disk :=
  { disk with root := target.place.put target.name entry }

/-! ### Reading -/

/-- What a path leads to: the text of a file, or a directory. -/
inductive Found
  | text (text : String)
  | directory

/-- What a path leads to. -/
def find (disk : Disk) (path : String) : Except FileError Found := do
  match ← disk.aim path with
  | none => pure .directory
  | some target =>
    requireShort target.name
    match target.entry? with
    | none => throw .notFound
    | some (.file text) =>
      if meansDirectory path then throw .notADirectory else pure (.text text)
    | some (.directory _) => pure .directory

/-- Whether a path leads to anything. -/
def holds (disk : Disk) (path : String) : Bool := (disk.find path).isOk

/-- The text of the file that a path leads to. -/
def read (disk : Disk) (path : String) : Except FileError String := do
  match ← disk.find path with
  | .text text => pure text
  | .directory => throw .isADirectory

/-! ### Writing -/

/-- Makes a directory in one that is there. -/
def makeDirectory (disk : Disk) (path : String) : Except FileError Disk := do
  match ← disk.aim path with
  | none => throw .alreadyExists
  | some target =>
    requireShort target.name
    match target.entry? with
    | some _ => throw .alreadyExists
    | none => pure (disk.put target (.directory []))

/-- Makes a directory, or leaves the disk alone if it is there. -/
def ensureDirectory (disk : Disk) (path : String) : Except FileError Disk :=
  match disk.makeDirectory path with
  | .ok disk => .ok disk
  | .error error =>
    match disk.find path with
    | .ok .directory => .ok disk
    | _ => .error error

/-- Makes a directory and the directories around it that are missing, given from the inside
out. -/
def ensureDirectories (disk : Disk) : List Path.Ancestor → Except FileError Unit × Disk
  | [] => (.ok (), disk)
  | inner :: around =>
    match disk.ensureDirectory inner.text with
    | .ok disk => (.ok (), disk)
    | .error .notFound =>
      match disk.ensureDirectories around with
      | (.error error, disk) => (.error error, disk)
      | (.ok (), disk) =>
        match disk.ensureDirectory inner.text with
        | .ok disk => (.ok (), disk)
        | .error error => (.error error, disk)
    | .error error => (.error error, disk)

/-- Writes a file into a directory that is there, in place of the file that stands there. A path
that can only mean a directory is refused whatever stands there. -/
def write (disk : Disk) (path text : String) : Except FileError Disk := do
  match ← disk.aim path with
  | none => throw .isADirectory
  | some target =>
    if meansDirectory path then throw .isADirectory
    else do
      requireShort target.name
      match target.entry? with
      | some (.directory _) => throw .isADirectory
      | _ => pure (disk.put target (.file text))

end Disk

end ValueGen
