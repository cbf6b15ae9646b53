/-
This file makes the accesses to a disk accesses to the function that it is seen as. Each access to
the tree gives the answer that the access to the function gives and leaves the function that it
leaves, so what is proved of the one holds of the other.
-/

import ValueGen.Proofs.Disk.View

namespace ValueGen

/-- A disk as a function from locations, with a working directory. -/
structure FlatDisk where
  view : DiskView
  workingDirectory : Location

/-- The function that a disk is seen as. -/
def Disk.flat (disk : Disk) : FlatDisk := ⟨disk.view, disk.workingDirectory⟩

namespace FlatDisk

/-- Puts a text or an empty directory at a location. -/
def set (flat : FlatDisk) (location : Location) (found : Disk.Found) : FlatDisk :=
  { flat with view := fun other => if other = location then some found else flat.view other }

theorem view_set_self (flat : FlatDisk) (location : Location) (found : Disk.Found) :
    (flat.set location found).view location = some found := if_pos rfl

theorem view_set_other (flat : FlatDisk) {location other : Location} (found : Disk.Found)
    (differ : other ≠ location) : (flat.set location found).view other = flat.view other :=
  if_neg differ

/-- Where a path starts. -/
def start (flat : FlatDisk) (path : String) : Except FileError Location :=
  if Path.isAbsolute path then .ok [] else flat.view.walk [] flat.workingDirectory

/-- Where a path ends: a name in a directory, or a directory without a name. -/
def aim (flat : FlatDisk) (path : String) : Except FileError (Option (Location × String)) := do
  Disk.requireUsable path
  let start ← flat.start path
  match (Path.parts path).reverse with
  | [] => if Path.isAbsolute path then pure none else throw .notFound
  | last :: before => do
    let place ← flat.view.walk start before.reverse
    if last = "." || last = ".." then pure none else pure (some (place, last))

/-- What a path leads to. -/
def find (flat : FlatDisk) (path : String) : Except FileError Disk.Found := do
  match ← flat.aim path with
  | none => pure .directory
  | some (place, name) =>
    Disk.requireShort name
    match flat.view (place ++ [name]) with
    | none => throw .notFound
    | some (.text text) =>
      if Disk.meansDirectory path then throw .notADirectory else pure (.text text)
    | some .directory => pure .directory

/-- Makes a directory in one that is there. -/
def makeDirectory (flat : FlatDisk) (path : String) : Except FileError FlatDisk := do
  match ← flat.aim path with
  | none => throw .alreadyExists
  | some (place, name) =>
    Disk.requireShort name
    match flat.view (place ++ [name]) with
    | some _ => throw .alreadyExists
    | none => pure (flat.set (place ++ [name]) .directory)

/-- Writes a file into a directory that is there. -/
def write (flat : FlatDisk) (path text : String) : Except FileError FlatDisk := do
  match ← flat.aim path with
  | none => throw .isADirectory
  | some (place, name) =>
    if Disk.meansDirectory path then throw .isADirectory
    else do
      Disk.requireShort name
      match flat.view (place ++ [name]) with
      | some .directory => throw .isADirectory
      | _ => pure (flat.set (place ++ [name]) (.text text))

/-- Makes a directory, or leaves the disk alone if it is there. -/
def ensureDirectory (flat : FlatDisk) (path : String) : Except FileError FlatDisk :=
  match flat.makeDirectory path with
  | .ok flat => .ok flat
  | .error error =>
    match flat.find path with
    | .ok .directory => .ok flat
    | _ => .error error

/-- Makes a directory and the directories around it that are missing, given by their paths from the
inside out. -/
def ensureDirectories (flat : FlatDisk) : List String → Except FileError Unit × FlatDisk
  | [] => (.ok (), flat)
  | inner :: around =>
    match flat.ensureDirectory inner with
    | .ok flat => (.ok (), flat)
    | .error .notFound =>
      match flat.ensureDirectories around with
      | (.error error, flat) => (.error error, flat)
      | (.ok (), flat) =>
        match flat.ensureDirectory inner with
        | .ok flat => (.ok (), flat)
        | .error error => (.error error, flat)
    | .error error => (.error error, flat)

end FlatDisk

/-! ### The tree and the function -/

namespace Disk

/-- The directory and the name of a target. -/
def Target.key (target : Target) : Location × String := (target.place.location, target.name)

theorem start_flat (disk : Disk) (path : String) :
    (disk.start path).map Place.location = disk.flat.start path ∧
      ∀ place, disk.start path = .ok place → place.Within disk.root := by
  rw [start, FlatDisk.start]
  by_cases absolute : Path.isAbsolute path
  · rw [if_pos absolute, if_pos absolute]
    refine ⟨rfl, fun place same => ?_⟩
    rw [← Except.ok.inj same]
    exact .root
  · rw [if_neg absolute, if_neg absolute]
    exact Place.Within.root.walk disk.workingDirectory

theorem aim_flat (disk : Disk) (path : String) :
    (disk.aim path).map (Option.map Target.key) = disk.flat.aim path ∧
      ∀ target, disk.aim path = .ok (some target) → target.place.Within disk.root := by
  obtain ⟨started, within⟩ := disk.start_flat path
  rw [aim, FlatDisk.aim, ← started]
  rcases requireUsable path with _ | ⟨⟨⟩⟩
  · exact ⟨rfl, fun target impossible => (by cases impossible)⟩
  · rcases begun : disk.start path with _ | place
    · exact ⟨rfl, fun target impossible => (by cases impossible)⟩
    · simp only [Except.map, bind, Except.bind, pure, Except.pure, throw, throwThe,
        MonadExceptOf.throw]
      rcases (Path.parts path).reverse with _ | ⟨last, before⟩
      · by_cases absolute : Path.isAbsolute path <;> simp [absolute]
      · obtain ⟨walked, inside⟩ := (within place begun).walk before.reverse
        have same : disk.flat.view = Folder.view disk.root := rfl
        dsimp only
        rw [same, ← walked]
        rcases reached : place.walk before.reverse with _ | inner
        · simp [Except.map]
        · by_cases unnamed : last = "." ∨ last = ".."
          · simp [Except.map, unnamed]
          · simp [Except.map, unnamed, Target.key, inside inner reached]

/-- Where a path ends in the tree and in the function. -/
theorem aim_cases (disk : Disk) (path : String) :
    (∃ error, disk.aim path = .error error ∧ disk.flat.aim path = .error error) ∨
      (disk.aim path = .ok none ∧ disk.flat.aim path = .ok none) ∨
      ∃ target, disk.aim path = .ok (some target) ∧
        disk.flat.aim path = .ok (some (target.place.location, target.name)) ∧
          target.place.Within disk.root := by
  obtain ⟨same, within⟩ := disk.aim_flat path
  rcases aimed : disk.aim path with error | _ | target
  · exact Or.inl ⟨error, rfl, by rw [← same, aimed]; rfl⟩
  · exact Or.inr (Or.inl ⟨rfl, by rw [← same, aimed]; rfl⟩)
  · exact Or.inr (Or.inr ⟨target, rfl, by rw [← same, aimed]; rfl, within target aimed⟩)

theorem view_target {disk : Disk} {target : Target} (within : target.place.Within disk.root)
    (rest : Location) :
    disk.flat.view (target.place.location ++ target.name :: rest) =
      target.entry?.bind (·.view rest) := by
  show Folder.view disk.root _ = _
  rw [within.view_eq, Folder.view_cons]
  rfl

/-- Putting something without contents where nothing has contents is an update at one location. -/
theorem flat_put {disk : Disk} {target : Target} (within : target.place.Within disk.root)
    {entry : DiskEntry} {found : Found}
    (leaf : ∀ rest, entry.view rest = if rest = [] then some found else none)
    (bare : ∀ rest, rest ≠ [] → target.entry?.bind (·.view rest) = none) :
    (disk.put target entry).flat =
      disk.flat.set (target.place.location ++ [target.name]) found := by
  rw [flat, FlatDisk.set, FlatDisk.mk.injEq]
  refine ⟨?_, rfl⟩
  funext other
  by_cases below : target.place.location ++ [target.name] <+: other
  · obtain ⟨rest, rfl⟩ := below
    rw [List.append_assoc, List.singleton_append]
    refine (target.place.view_put_self target.name entry rest).trans ?_
    rw [leaf]
    by_cases here : rest = []
    · rw [here, if_pos rfl, if_pos rfl]
    · rw [if_neg here, if_neg (by simpa using here), view_target within, bare rest here]
  · have differ : other ≠ target.place.location ++ [target.name] := by
      rintro rfl
      exact below (List.prefix_refl _)
    rw [if_neg differ]
    exact within.view_put_other entry below

theorem find_flat (disk : Disk) (path : String) : disk.find path = disk.flat.find path := by
  rw [find, FlatDisk.find]
  rcases disk.aim_cases path with
    ⟨error, aimed, same⟩ | ⟨aimed, same⟩ | ⟨target, aimed, same, within⟩
  · rw [aimed, same]
    rfl
  · rw [aimed, same]
    rfl
  · have here := view_target within []
    rw [aimed, same]
    simp only [bind, Except.bind]
    rw [here]
    rcases target.entry? with _ | (_ | _) <;> rfl

/-- Making a directory in the tree is making it in the function. -/
theorem makeDirectory_flat (disk : Disk) (path : String) :
    (disk.makeDirectory path).map flat = disk.flat.makeDirectory path := by
  rw [makeDirectory, FlatDisk.makeDirectory]
  rcases disk.aim_cases path with
    ⟨error, aimed, same⟩ | ⟨aimed, same⟩ | ⟨target, aimed, same, within⟩
  · rw [aimed, same]
    rfl
  · rw [aimed, same]
    rfl
  · have here := view_target within []
    rw [aimed, same]
    simp only [bind, Except.bind]
    rw [here]
    rcases requireShort target.name with _ | ⟨⟨⟩⟩
    · rfl
    · rcases there : target.entry? with _ | (_ | _)
      · refine congrArg Except.ok (flat_put within (fun rest => ?_) fun rest _ => ?_)
        · cases rest <;> rfl
        · rw [there]
          rfl
      · rfl
      · rfl

/-- Writing a file in the tree is writing it in the function. -/
theorem write_flat (disk : Disk) (path text : String) :
    (disk.write path text).map flat = disk.flat.write path text := by
  rw [write, FlatDisk.write]
  rcases disk.aim_cases path with
    ⟨error, aimed, same⟩ | ⟨aimed, same⟩ | ⟨target, aimed, same, within⟩
  · rw [aimed, same]
    rfl
  · rw [aimed, same]
    rfl
  · have here := view_target within []
    rw [aimed, same]
    simp only [bind, Except.bind]
    rw [here]
    by_cases trailing : meansDirectory path
    · rw [if_pos trailing, if_pos trailing]
      rfl
    · rw [if_neg trailing, if_neg trailing]
      rcases requireShort target.name with _ | ⟨⟨⟩⟩
      · rfl
      · rcases there : target.entry? with _ | (_ | _)
        · refine congrArg Except.ok (flat_put within (fun rest => rfl) fun rest _ => ?_)
          rw [there]
          rfl
        · refine congrArg Except.ok (flat_put within (fun rest => rfl) fun rest named => ?_)
          rw [there]
          exact if_neg named
        · rfl

theorem ensureDirectory_flat (disk : Disk) (path : String) :
    (disk.ensureDirectory path).map flat = disk.flat.ensureDirectory path := by
  rw [ensureDirectory, FlatDisk.ensureDirectory, ← makeDirectory_flat, ← find_flat]
  rcases disk.makeDirectory path with _ | _
  · rcases disk.find path with _ | (_ | _) <;> rfl
  · rfl

/-- Making directories in the tree is making them in the function. -/
theorem ensureDirectories_flat (disk : Disk) (directories : List Path.Ancestor) :
    ((disk.ensureDirectories directories).1, (disk.ensureDirectories directories).2.flat) =
      disk.flat.ensureDirectories (directories.map (·.text)) := by
  induction directories generalizing disk with
  | nil => rfl
  | cons inner around inductionHypothesis =>
    rw [ensureDirectories, List.map_cons, FlatDisk.ensureDirectories, ← ensureDirectory_flat,
      ← inductionHypothesis]
    rcases disk.ensureDirectory inner.text with error | after
    · cases error with
      | notFound =>
        rcases disk.ensureDirectories around with ⟨_ | ⟨⟨⟩⟩, between⟩
        · rfl
        · simp only [Except.map, ← ensureDirectory_flat]
          rcases between.ensureDirectory inner.text with _ | _ <;> rfl
      | _ => rfl
    · rfl

end Disk

end ValueGen
