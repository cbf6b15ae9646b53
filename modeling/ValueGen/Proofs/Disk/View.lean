/-
This file sees a disk as a function from locations: at a location, which is the names that lead to
it from the root, stands a text, a directory or nothing. Where a path leads does not depend on the
disk, only whether one gets there does. So making a directory and writing a file are updates of the
function at one location, and what stands elsewhere stays.
-/

import ValueGen.Disk.Access

namespace ValueGen

/-- The names that lead to a place from the root. -/
abbrev Location := List String

/-- What stands at each location. -/
abbrev DiskView := Location → Option Disk.Found

/-! ### Directories -/

namespace Folder

/-- What stands at a location in a directory. -/
def view (folder : Folder) : DiskView
  | [] => some .directory
  | name :: rest =>
    match folder.lookup name with
    | none => none
    | some (.file text) => if rest = [] then some (.text text) else none
    | some (.directory contents) => Folder.view contents rest

end Folder

/-- What stands at a location in what has a name in a directory. -/
def DiskEntry.view : DiskEntry → DiskView
  | .file text => fun rest => if rest = [] then some (.text text) else none
  | .directory contents => Folder.view contents

/-- What stands at a location on a disk. -/
def Disk.view (disk : Disk) : DiskView := Folder.view disk.root

namespace Folder

theorem view_cons (folder : Folder) (name : String) (rest : Location) :
    folder.view (name :: rest) = (folder.lookup name).bind (·.view rest) := by
  rw [view]
  rcases folder.lookup name with _ | (_ | _) <;> rfl

theorem lookup_filter_other {name other : String} (differ : other ≠ name) (folder : Folder) :
    (folder.filter (·.1 ≠ name)).lookup other = folder.lookup other := by
  induction folder with
  | nil => rfl
  | cons first rest inductionHypothesis =>
    rw [List.filter_cons, List.lookup_cons]
    by_cases replaced : first.1 = name
    · rw [if_neg (by simpa using replaced), replaced, beq_false_of_ne differ]
      exact inductionHypothesis
    · rw [if_pos (by simpa using replaced), List.lookup_cons, inductionHypothesis]

theorem lookup_put (folder : Folder) (name other : String) (entry : DiskEntry) :
    (folder.put name entry).lookup other =
      if other = name then some entry else folder.lookup other := by
  rw [put, List.lookup_cons]
  by_cases same : other = name
  · rw [if_pos same, beq_iff_eq.mpr same]
  · rw [if_neg same, beq_false_of_ne same]
    exact lookup_filter_other same folder

theorem view_put_self (folder : Folder) (name : String) (entry : DiskEntry) (rest : Location) :
    (folder.put name entry).view (name :: rest) = entry.view rest := by
  rw [view_cons, lookup_put, if_pos rfl, Option.bind_some]

theorem view_put_other (folder : Folder) {name : String} (entry : DiskEntry) {location : Location}
    (elsewhere : ¬ [name] <+: location) :
    (folder.put name entry).view location = folder.view location := by
  cases location with
  | nil => rfl
  | cons first rest =>
    have differ : first ≠ name := by
      rintro rfl
      exact elsewhere ⟨rest, rfl⟩
    rw [view_cons, view_cons, lookup_put, if_neg differ]

end Folder

/-! ### Places -/

namespace Place

/-- Where a directory is. -/
def location (place : Place) : Location := (place.around.map Prod.fst).reverse

/-- A directory as one comes to it from a root. -/
inductive Within (root : Folder) : Place → Prop
  | root : Within root ⟨root, []⟩
  | enter {outer contents : Folder} {around : List (String × Folder)} {name : String}
    (there : Within root ⟨outer, around⟩) (found : outer.lookup name = some (.directory contents)) :
    Within root ⟨contents, (name, outer) :: around⟩

variable {root : Folder} {place : Place}

theorem location_enter (contents outer : Folder) (name : String)
    (around : List (String × Folder)) :
    (⟨contents, (name, outer) :: around⟩ : Place).location =
      (⟨outer, around⟩ : Place).location ++ [name] := by
  rw [location, location, List.map_cons, List.reverse_cons]

theorem put_enter (contents outer : Folder) (inner name : String)
    (around : List (String × Folder)) (entry : DiskEntry) :
    (⟨contents, (inner, outer) :: around⟩ : Place).put name entry =
      (⟨outer, around⟩ : Place).put inner (.directory (contents.put name entry)) := rfl

theorem Within.view_eq (within : place.Within root) (rest : Location) :
    root.view (place.location ++ rest) = place.contents.view rest := by
  induction within generalizing rest with
  | root => rfl
  | enter there found inductionHypothesis =>
    rw [location_enter, List.append_assoc, inductionHypothesis, List.singleton_append,
      Folder.view_cons, found]
    rfl

theorem view_put_self (place : Place) (name : String) (entry : DiskEntry) (rest : Location) :
    Folder.view (place.put name entry) (place.location ++ name :: rest) = entry.view rest := by
  obtain ⟨contents, around⟩ := place
  induction around generalizing contents name entry rest with
  | nil => exact Folder.view_put_self contents name entry rest
  | cons outer around inductionHypothesis =>
    rw [location_enter, put_enter, List.append_assoc, List.singleton_append, inductionHypothesis]
    exact Folder.view_put_self contents name entry rest

theorem Within.view_put_other (within : place.Within root) {name : String} (entry : DiskEntry)
    {location : Location} (elsewhere : ¬ place.location ++ [name] <+: location) :
    Folder.view (place.put name entry) location = root.view location := by
  induction within generalizing name entry location with
  | root => exact Folder.view_put_other root entry elsewhere
  | @enter outer contents around inner there found inductionHypothesis =>
    rw [put_enter]
    by_cases inside : (⟨outer, around⟩ : Place).location ++ [inner] <+: location
    · -- the change is in the directory that the location leads through, but elsewhere in it
      obtain ⟨rest, rfl⟩ := inside
      have here := (Within.enter there found).view_eq rest
      rw [location_enter] at here elsewhere
      rw [here, List.append_assoc, List.singleton_append, view_put_self]
      refine Folder.view_put_other contents entry fun further => elsewhere ?_
      obtain ⟨more, rfl⟩ := further
      exact ⟨more, by rw [List.append_assoc]⟩
    · exact inductionHypothesis _ inside

end Place

/-! ### Walking -/

namespace Location

/-- Where the parts of a path lead from a location, whatever stands on the way. -/
def follow : Location → List String → Location
  | location, [] => location
  | location, part :: rest =>
    if part = "." then follow location rest
    else if part = ".." then follow location.dropLast rest
    else follow (location ++ [part]) rest

/-- The locations that the parts of a path enter by name on the way. -/
def trail : Location → List String → List Location
  | _, [] => []
  | location, part :: rest =>
    if part = "." then trail location rest
    else if part = ".." then trail location.dropLast rest
    else (location ++ [part]) :: trail (location ++ [part]) rest

end Location

open Location

namespace DiskView

/-- Follows the parts of a path through directories. -/
def walk (view : DiskView) : Location → List String → Except FileError Location
  | location, [] => .ok location
  | location, part :: rest =>
    if part = "." then walk view location rest
    else if part = ".." then walk view location.dropLast rest
    else
      match Disk.requireShort part, view (location ++ [part]) with
      | .error error, _ => .error error
      | .ok (), none => .error .notFound
      | .ok (), some (.text _) => .error .notADirectory
      | .ok (), some .directory => walk view (location ++ [part]) rest

/-- One gets where a path leads exactly if there is a directory at each step of the way. -/
theorem walk_eq_ok_iff (view : DiskView) (location : Location) (parts : List String)
    (inner : Location) :
    view.walk location parts = .ok inner ↔ inner = follow location parts ∧
      (∀ part ∈ parts, Disk.requireShort part = .ok ()) ∧
        ∀ step ∈ trail location parts, view step = some .directory := by
  induction parts generalizing location with
  | nil => simp [walk, follow, trail, eq_comm]
  | cons part rest inductionHypothesis =>
    rw [walk, follow, trail, List.forall_mem_cons]
    by_cases point : part = "."
    · have short : Disk.requireShort part = .ok () := point ▸ rfl
      simp only [if_pos point, inductionHypothesis, short, true_and]
    · by_cases up : part = ".."
      · have short : Disk.requireShort part = .ok () := up ▸ rfl
        simp only [if_neg point, if_pos up, inductionHypothesis, short, true_and]
      · simp only [if_neg point, if_neg up, List.forall_mem_cons]
        rcases Disk.requireShort part with _ | ⟨⟨⟩⟩
        · simp
        · rcases view (location ++ [part]) with _ | (_ | _)
          · simp
          · simp
          · simp [inductionHypothesis]

/-- Where no text is in the way, one gets where a path leads, or something is missing. -/
theorem walk_of_clear (view : DiskView) (location : Location) (parts : List String)
    (short : ∀ part ∈ parts, Disk.requireShort part = .ok ())
    (clear : ∀ step ∈ trail location parts, ∀ text, view step ≠ some (.text text)) :
    view.walk location parts = .ok (follow location parts) ∨
      view.walk location parts = .error .notFound := by
  induction parts generalizing location with
  | nil => exact Or.inl rfl
  | cons part rest inductionHypothesis =>
    obtain ⟨here, later⟩ := List.forall_mem_cons.mp short
    rw [trail] at clear
    rw [walk, follow]
    split at clear
    · rename_i point
      rw [if_pos point, if_pos point]
      exact inductionHypothesis _ later clear
    · rename_i point
      rw [if_neg point, if_neg point]
      split at clear
      · rename_i up
        rw [if_pos up, if_pos up]
        exact inductionHypothesis _ later clear
      · rename_i up
        rw [if_neg up, if_neg up, here]
        obtain ⟨noText, clear⟩ := List.forall_mem_cons.mp clear
        rcases found : view (location ++ [part]) with _ | (text | _)
        · exact Or.inr rfl
        · exact absurd found (noText text)
        · exact inductionHypothesis _ later clear

end DiskView

namespace Place

variable {root : Folder} {place : Place}

theorem Within.leave (within : place.Within root) :
    place.leave.Within root ∧ place.leave.location = place.location.dropLast := by
  cases within with
  | root => exact ⟨.root, rfl⟩
  | enter there found =>
    refine ⟨there, ?_⟩
    rw [location_enter, List.dropLast_concat]
    rfl

/-- Walking through places is walking through locations. -/
theorem Within.walk (within : place.Within root) (parts : List String) :
    (place.walk parts).map location = root.view.walk place.location parts ∧
      ∀ inner, place.walk parts = .ok inner → inner.Within root := by
  induction parts generalizing place with
  | nil =>
    refine ⟨rfl, fun inner same => ?_⟩
    exact Except.ok.inj same ▸ within
  | cons part rest inductionHypothesis =>
    rw [Place.walk, DiskView.walk]
    by_cases point : part = "."
    · rw [if_pos point, if_pos point]
      exact inductionHypothesis within
    · rw [if_neg point, if_neg point]
      by_cases up : part = ".."
      · rw [if_pos up, if_pos up, ← within.leave.2]
        exact inductionHypothesis within.leave.1
      · rw [if_neg up, if_neg up, within.view_eq, Folder.view_cons, Place.enter]
        rcases Disk.requireShort part with _ | ⟨⟨⟩⟩
        · exact ⟨rfl, fun inner impossible => (by cases impossible)⟩
        · rcases found : place.contents.lookup part with _ | (_ | contents)
          · exact ⟨rfl, fun inner impossible => (by cases impossible)⟩
          · exact ⟨rfl, fun inner impossible => (by cases impossible)⟩
          · have entered := inductionHypothesis (Within.enter within found)
            rw [location_enter] at entered
            exact entered

end Place

end ValueGen
