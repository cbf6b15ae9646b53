/-
This file says when a file is written together with the directories around it, and what that does to
the disk. The directories are made first, so a path that leads through the place of its own file is
refused like one that a text stands in the way of.
-/

import ValueGen.Proofs.Disk.Making

namespace ValueGen

open Location

namespace FlatDisk

variable {flat between after : FlatDisk} {path file text : String} {names : List String}
  {start : Location}

/-- Makes the directories around a path and writes a file to it. -/
def deliver (flat : FlatDisk) (path text : String) : Bool × FlatDisk :=
  match flat.ensureDirectories ((Path.directoriesAround path).map (·.text)) with
  | (.error _, after) => (false, after)
  | (.ok (), between) =>
    match between.write path text with
    | .ok after => (true, after)
    | .error _ => (false, between)

/-- Nothing keeps a file from being written. -/
structure Accepts (flat : FlatDisk) (path : String) (start : Location) (names : List String)
    (file : String) : Prop where
  usable : Disk.requireUsable path = .ok ()
  started : flat.start path = .ok start
  short : ∀ name ∈ names ++ [file], Disk.requireShort name = .ok ()
  /-- No text stands where a directory has to be. -/
  clear : ∀ step ∈ trail start names, ∀ text, flat.view step ≠ some (.text text)
  /-- No directory stands where the file has to be. -/
  free : flat.view (follow start names ++ [file]) ≠ some .directory
  /-- The path does not lead through the place where the file has to be. -/
  aside : follow start names ++ [file] ∉ trail start names

/-- Where nothing is in the way, the directories are made. -/
theorem Accepts.made (accepts : flat.Accepts path start names file)
    (leads : Path.LeadsToFile path names file) :
    ∃ after, flat.ensureDirectories ((Path.directoriesAround path).map (·.text)) =
      (.ok (), after) ∧ ∀ step ∈ trail start names, after.view step = some .directory :=
  ensureDirectories_of_clear leads.around accepts.usable accepts.started
    (fun name member => accepts.short name (List.mem_append_left _ member)) accepts.clear

/-- Making directories does not put one where the file has to be. -/
theorem Accepts.free_of_adds (accepts : flat.Accepts path start names file)
    (adds : Adds (· ∈ trail start names) flat between) :
    between.view (follow start names ++ [file]) ≠ some .directory := by
  rcases adds.view (follow start names ++ [file]) with same | ⟨_, _, member⟩
  · rw [same]
    exact accepts.free
  · exact absurd member accepts.aside

/-- Where the directories are made and nothing is in the way, the file is written. -/
theorem Accepts.written (accepts : flat.Accepts path start names file)
    (leads : Path.LeadsToFile path names file)
    (adds : Adds (· ∈ trail start names) flat between)
    (there : ∀ step ∈ trail start names, between.view step = some .directory) :
    between.write path text =
      .ok (between.set (follow start names ++ [file]) (.text text)) := by
  have proper : file ∉ [".", ".."] := fun member => leads.plain (List.mem_cons_of_mem _ member)
  have walked : between.view.walk start names = .ok (follow start names) :=
    (between.view.walk_eq_ok_iff _ _ _).mpr
      ⟨rfl, fun part member => accepts.short part (List.mem_append_left _ member), there⟩
  exact (write_eq_ok_iff leads.parts_eq).mpr
    ⟨_, ⟨accepts.usable, start, adds.start_eq_ok accepts.started, walked⟩, proper,
      leads.notTrailing, accepts.short file (by simp), accepts.free_of_adds adds, rfl⟩

/-- A file is only written where nothing has been in the way. -/
theorem accepts_of_written (leads : Path.LeadsToFile path names file)
    (started : flat.start path = .ok start) (adds : Adds (· ∈ trail start names) flat between)
    (written : between.write path text = .ok after) :
    flat.Accepts path start names file ∧
      (∀ step ∈ trail start names, between.view step = some .directory) ∧
        after = between.set (follow start names ++ [file]) (.text text) := by
  obtain ⟨place, ⟨usable, other, otherStarted, walked⟩, _, _, short, free, rfl⟩ :=
    (write_eq_ok_iff leads.parts_eq).mp written
  obtain rfl := Except.ok.inj (otherStarted.symm.trans (adds.start_eq_ok started))
  obtain ⟨rfl, shortNames, there⟩ := (between.view.walk_eq_ok_iff _ _ _).mp walked
  refine ⟨⟨usable, started, ?_, ?_, ?_, ?_⟩, there, rfl⟩
  · intro name member
    rcases List.mem_append.mp member with isDirectory | isFile
    · exact shortNames name isDirectory
    · rwa [List.mem_singleton.mp isFile]
  · intro step member text here
    have impossible := (adds.keeps here).symm.trans (there step member)
    cases impossible
  · exact fun here => free (adds.keeps here)
  · exact fun member => free (there _ member)

/-- A file is written exactly if nothing keeps it from that, and else there are only new directories
on the way. -/
theorem deliver_cases (leads : Path.LeadsToFile path names file)
    (started : flat.start path = .ok start) (text : String) :
    (flat.Accepts path start names file ∧ ∃ between, Adds (· ∈ trail start names) flat between ∧
      (∀ step ∈ trail start names, between.view step = some .directory) ∧
        flat.deliver path text =
          (true, between.set (follow start names ++ [file]) (.text text))) ∨
      ¬ flat.Accepts path start names file ∧ ∃ after, Adds (· ∈ trail start names) flat after ∧
        flat.deliver path text = (false, after) := by
  have adds : Adds (· ∈ trail start names) flat
      (flat.ensureDirectories ((Path.directoriesAround path).map (·.text))).2 := by
    refine (ensureDirectories_adds leads.around flat).mono ?_
    rintro location ⟨other, same, member⟩
    rwa [Except.ok.inj (same.symm.trans started)] at member
  have making : flat.Accepts path start names file → _ := fun accepts => accepts.made leads
  rw [deliver]
  generalize flat.ensureDirectories _ = made at adds making ⊢
  obtain ⟨error | ⟨⟨⟩⟩, between⟩ := made
  · refine Or.inr ⟨fun accepts => ?_, between, adds, rfl⟩
    obtain ⟨after, impossible, _⟩ := making accepts
    cases impossible
  · rcases outcome : between.write path text with error | after
    · refine Or.inr ⟨fun accepts => ?_, between, adds, by simp only [outcome]⟩
      obtain ⟨after, same, there⟩ := making accepts
      cases same
      rw [accepts.written leads adds there] at outcome
      cases outcome
    · obtain ⟨accepts, there, rfl⟩ := accepts_of_written leads started adds outcome
      exact Or.inl ⟨accepts, between, adds, there, by simp only [outcome]⟩

/-- Where a path does not start anywhere, nothing happens. -/
theorem deliver_of_unstarted (leads : Path.LeadsToFile path names file) {error : FileError}
    (unstarted : flat.start path = .error error) : flat.deliver path text = (false, flat) := by
  have nowhere : ∀ location, ¬ Entered flat path names location := by
    rintro location ⟨start, started, _⟩
    exact absurd (started.symm.trans unstarted) (by simp)
  have same := (ensureDirectories_adds leads.around flat).eq_of_forall_not nowhere
  rw [deliver]
  generalize flat.ensureDirectories _ = made at same ⊢
  obtain ⟨_ | _, between⟩ := made
  · rw [← same]
  · obtain rfl : between = flat := same
    rcases written : between.write path text with error | after
    · simp only [written]
    · obtain ⟨_, ⟨_, start, started, _⟩, _⟩ := (write_eq_ok_iff leads.parts_eq).mp written
      exact absurd (started.symm.trans unstarted) (by simp)

end FlatDisk

end ValueGen
