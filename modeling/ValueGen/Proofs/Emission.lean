/-
This file says what becomes of a disk when units are written below an output directory, one after
another in any order. Whether a unit is written can be told from the disk before the first one:
units only add directories on their ways and texts at their places, and none of these is in the way
of another unit. So the units that are written do not depend on the order, and neither do the files.
-/

import ValueGen.Emission.Emitter
import ValueGen.Proofs.Disk.Writing

namespace ValueGen

open Location

namespace GeneratedName

/-- Whether the package and the name of the outermost class hold no slash. -/
def SlashFree (name : GeneratedName) : Prop :=
  '/' ∉ name.package.toList ∧ '/' ∉ name.topLevel.toList

instance (name : GeneratedName) : Decidable name.SlashFree :=
  inferInstanceAs (Decidable (_ ∧ _))

end GeneratedName

/-! ### Where units go -/

namespace CompilationUnit

/-- The names of the directories through which a unit goes to its place below an output
directory. -/
def directories (unit : CompilationUnit) (root : String) : List String :=
  Path.parts root ++ Path.packageParts unit.name.package

/-- The name of the file of a unit. -/
def file (unit : CompilationUnit) : String := unit.name.topLevel ++ ".java"

/-- The locations through which a unit goes, if the path of the output directory starts at a given
one. -/
def way (unit : CompilationUnit) (root : String) (start : Location) : List Location :=
  trail start (unit.directories root)

/-- The location to which a unit goes. -/
def place (unit : CompilationUnit) (root : String) (start : Location) : Location :=
  follow start (unit.directories root) ++ [unit.file]

/-- Whether a unit has the path of its name, with no slash in a name. -/
def GoesByName (unit : CompilationUnit) : Prop :=
  unit.path = Path.ofUnit unit.name.package unit.name.topLevel ∧ unit.name.SlashFree

variable {root : String} {start : Location} {unit first second : CompilationUnit}

theorem spells_path (byName : unit.GoesByName) :
    Path.Spells unit.path (Path.packageParts unit.name.package ++ [unit.file]) := by
  rw [byName.1]
  exact Path.spells_ofUnit byName.2.1 byName.2.2

theorem not_mem_packageParts (package : String) : "" ∉ Path.packageParts package :=
  fun member => (Path.of_mem_packageParts member).1 rfl

theorem leadsToFile (byName : unit.GoesByName) (root : String) :
    Path.LeadsToFile (Path.append root unit.path) (unit.directories root) unit.file :=
  (spells_path byName).leadsToFile (not_mem_packageParts _)
    (Path.java_not_mem_plain unit.name.topLevel) root

/-- All units below an output directory start where its path starts. -/
theorem start_append (byName : unit.GoesByName) (flat : FlatDisk) (root : String) :
    flat.start (Path.append root unit.path) = flat.start root := by
  have relative : Path.isAbsolute unit.path = false := by
    refine (spells_path byName).not_absolute fun member => ?_
    rcases List.mem_append.mp member with isPart | isFile
    · exact not_mem_packageParts _ isPart
    · exact Path.java_not_mem_plain unit.name.topLevel
        (List.mem_singleton.mp isFile ▸ List.mem_cons_self)
  rw [FlatDisk.start, FlatDisk.start, Path.isAbsolute_append root relative]

theorem not_mem_points {package part : String} (member : part ∈ Path.packageParts package) :
    part ∉ [".", ".."] := by
  obtain ⟨_, pointFree, _⟩ := Path.of_mem_packageParts member
  intro pointed
  rcases List.mem_pair.mp pointed with rfl | rfl <;> exact pointFree (by decide)

theorem ne_file {package part : String} (member : part ∈ Path.packageParts package)
    (unit : CompilationUnit) : part ≠ unit.file := by
  obtain ⟨_, pointFree, _⟩ := Path.of_mem_packageParts member
  rintro rfl
  rw [file, String.toList_append, List.mem_append, not_or] at pointFree
  exact pointFree.2 (by decide)

theorem place_eq (unit : CompilationUnit) (root : String) (start : Location) :
    unit.place root start = follow start (Path.parts root) ++
      (Path.packageParts unit.name.package ++ [unit.file]) := by
  rw [place, directories, follow_append, follow_of_proper, List.append_assoc]
  exact fun part member => not_mem_points member

/-- Units with different packages or names go to different places. -/
theorem place_eq_iff : first.place root start = second.place root start ↔
    Path.packageParts first.name.package = Path.packageParts second.name.package ∧
      first.name.topLevel = second.name.topLevel := by
  rw [place_eq, place_eq, List.append_cancel_left_eq]
  constructor
  · intro same
    obtain ⟨parts, files⟩ := List.append_inj' same rfl
    exact ⟨parts, (String.append_left_inj _).mp (List.singleton_inj.mp files)⟩
  · rintro ⟨parts, names⟩
    rw [parts, file, file, names]

/-- No unit goes through the place of another one, unless all of them go through it. -/
theorem mem_way_of_mem_way (member : first.place root start ∈ second.way root start) :
    first.place root start ∈ first.way root start := by
  rw [way, directories, trail_append, List.mem_append] at member ⊢
  refine Or.inl (member.resolve_right fun inside => ?_)
  obtain ⟨part, isPart, last⟩ := getLast?_of_mem_trail inside
  rw [place, List.getLast?_concat, Option.some.injEq] at last
  exact ne_file isPart first last.symm

end CompilationUnit

/-! ### What is on the disk after units have been written -/

namespace FlatDisk

variable {before between after : FlatDisk} {root : String} {start : Location}
  {unit first second : CompilationUnit} {units : List CompilationUnit}

/-- Nothing keeps a unit from being written. -/
def Takes (flat : FlatDisk) (root : String) (start : Location) (unit : CompilationUnit) : Prop :=
  flat.Accepts (Path.append root unit.path) start (unit.directories root) unit.file

/-- What becomes of a disk when units are written, said of the disk before the first of them. -/
structure Delivered (root : String) (start : Location) (units : List CompilationUnit)
    (before after : FlatDisk) : Prop where
  workingDirectory : after.workingDirectory = before.workingDirectory
  begins : after.start root = before.start root
  directories : ∀ location, before.view location = some .directory →
    after.view location = some .directory
  made : ∀ location, after.view location = some .directory →
    before.view location = some .directory ∨ ∃ unit ∈ units, location ∈ unit.way root start
  texts : ∀ location text, after.view location = some (.text text) ↔
    (∃ unit ∈ units, before.Takes root start unit ∧ location = unit.place root start ∧
      text = unit.source) ∨
    before.view location = some (.text text) ∧
      ∀ unit ∈ units, before.Takes root start unit → location ≠ unit.place root start
  reached : ∀ unit ∈ units, before.Takes root start unit →
    ∀ step ∈ unit.way root start, after.view step = some .directory

theorem delivered_nil (flat : FlatDisk) : Delivered root start [] flat flat :=
  ⟨rfl, rfl, fun _ => id, fun _ => Or.inl, by simp, by simp⟩

/-- A unit that is not written may leave directories on its way. -/
theorem delivered_of_adds (refused : ¬ before.Takes root start unit)
    (begins : after.start root = before.start root)
    (adds : Adds (· ∈ unit.way root start) before after) :
    Delivered root start [unit] before after where
  workingDirectory := adds.workingDirectory
  begins := begins
  directories _ := adds.keeps
  made location there := by
    rcases adds.view location with same | ⟨_, _, member⟩
    · exact Or.inl (same ▸ there)
    · exact Or.inr ⟨unit, List.mem_singleton_self unit, member⟩
  texts location text := by
    rw [adds.text_iff]
    simp [refused]
  reached := by simp [refused]

theorem delivered_of_set (takes : before.Takes root start unit)
    (begins : before.start root = .ok start)
    (adds : Adds (· ∈ unit.way root start) before between)
    (reached : ∀ step ∈ unit.way root start, between.view step = some .directory) :
    Delivered root start [unit] before
      (between.set (unit.place root start) (.text unit.source)) := by
  have notPlace : ∀ location, between.view location = some .directory →
      location ≠ unit.place root start := by
    rintro location there rfl
    exact takes.free_of_adds adds there
  have kept : ∀ location, between.view location = some .directory →
      (between.set (unit.place root start) (.text unit.source)).view location = some .directory :=
    fun location there => (view_set_other between _ (notPlace location there)).trans there
  have same : (between.set (unit.place root start) (.text unit.source)).workingDirectory =
      between.workingDirectory := rfl
  refine ⟨adds.workingDirectory, ?_, fun location there => kept location (adds.keeps there),
    fun location there => ?_, fun location text => ?_, ?_⟩
  · rw [begins]
    exact start_of_keeps same kept (adds.start_eq_ok begins)
  · by_cases here : location = unit.place root start
    · rw [here, view_set_self] at there
      cases there
    · rw [view_set_other between _ here] at there
      rcases adds.view location with same | ⟨_, _, member⟩
      · exact Or.inl (same ▸ there)
      · exact Or.inr ⟨unit, List.mem_singleton_self unit, member⟩
  · by_cases here : location = unit.place root start
    · rw [here, view_set_self]
      simp [takes, eq_comm]
    · rw [view_set_other between _ here, adds.text_iff]
      simp [here]
  · simp only [List.mem_singleton, forall_eq]
    exact fun _ step member => kept step (reached step member)

/-- What becomes of a disk when one unit is written. -/
theorem delivered_deliver (byName : unit.GoesByName) (flat : FlatDisk)
    (begins : ∀ other, flat.start root = .ok other → other = start) :
    ((flat.deliver (Path.append root unit.path) unit.source).1 = true ↔
        flat.Takes root start unit) ∧
      Delivered root start [unit] flat
        (flat.deliver (Path.append root unit.path) unit.source).2 := by
  have leads := CompilationUnit.leadsToFile byName root
  have started := CompilationUnit.start_append byName flat root
  rcases begun : flat.start root with error | other
  · have refused : ¬ flat.Takes root start unit := fun takes => by
      have impossible := takes.started.symm.trans (started.trans begun)
      cases impossible
    rw [deliver_of_unstarted leads (started.trans begun)]
    exact ⟨by simp [refused], delivered_of_adds refused rfl (.refl flat)⟩
  · obtain rfl := begins other begun
    rcases deliver_cases leads (started.trans begun) unit.source with
      ⟨takes, between, adds, reached, outcome⟩ | ⟨refused, after, adds, outcome⟩
    · rw [outcome]
      exact ⟨iff_of_true rfl takes, delivered_of_set takes begun adds reached⟩
    · rw [outcome]
      refine ⟨iff_of_false Bool.false_ne_true refused, delivered_of_adds refused ?_ adds⟩
      exact (adds.start_eq_ok begun).trans begun.symm

/-- Whether a unit is written does not depend on whether others have been written before. -/
theorem Delivered.takes_iff (delivered : Delivered root start units before after)
    (byName : unit.GoesByName) :
    after.Takes root start unit ↔ before.Takes root start unit := by
  have started : after.start (Path.append root unit.path) =
      before.start (Path.append root unit.path) := by
    rw [CompilationUnit.start_append byName, CompilationUnit.start_append byName, delivered.begins]
  constructor
  · intro takes
    refine ⟨takes.usable, started ▸ takes.started, takes.short, ?_, ?_, takes.aside⟩
    · -- a text that stood in the way would still be there, or another one in its place
      intro step member text here
      by_cases replaced : ∃ other ∈ units, before.Takes root start other ∧
          step = other.place root start
      · obtain ⟨other, isUnit, taken, rfl⟩ := replaced
        exact takes.clear _ member _ ((delivered.texts _ _).mpr
          (Or.inl ⟨other, isUnit, taken, rfl, rfl⟩))
      · refine takes.clear step member text ((delivered.texts step text).mpr (Or.inr ⟨here, ?_⟩))
        exact fun other isUnit taken same => replaced ⟨other, isUnit, taken, same⟩
    · exact fun there => takes.free (delivered.directories _ there)
  · intro takes
    refine ⟨takes.usable, started ▸ takes.started, takes.short, ?_, ?_, takes.aside⟩
    · intro step member text here
      rcases (delivered.texts step text).mp here with ⟨other, _, taken, rfl, _⟩ | ⟨before, _⟩
      · exact taken.aside (CompilationUnit.mem_way_of_mem_way member)
      · exact takes.clear step member text before
    · intro there
      rcases delivered.made _ there with before | ⟨other, _, member⟩
      · exact takes.free before
      · exact takes.aside (CompilationUnit.mem_way_of_mem_way member)

/-- The texts on a disk after one unit has been written and then others. -/
theorem Delivered.texts_cons (byName : ∀ other ∈ units, other.GoesByName)
    (differ : ∀ other ∈ units, unit.place root start ≠ other.place root start)
    (first : Delivered root start [unit] before between)
    (others : Delivered root start units between after) (location : Location) (text : String) :
    after.view location = some (.text text) ↔
      (∃ other ∈ unit :: units, before.Takes root start other ∧
        location = other.place root start ∧ text = other.source) ∨
      before.view location = some (.text text) ∧
        ∀ other ∈ unit :: units, before.Takes root start other →
          location ≠ other.place root start := by
  have later : after.view location = some (.text text) ↔
      (∃ other ∈ units, before.Takes root start other ∧
        location = other.place root start ∧ text = other.source) ∨
      between.view location = some (.text text) ∧
        ∀ other ∈ units, before.Takes root start other → location ≠ other.place root start := by
    have same : ∀ other ∈ units, between.Takes root start other ↔ before.Takes root start other :=
      fun other member => first.takes_iff (byName other member)
    rw [others.texts]
    exact or_congr
      (exists_congr fun other => and_congr_right fun member => and_congr_left' (same other member))
      (and_congr_right fun _ =>
        forall₂_congr fun other member => imp_congr_left (same other member))
  have elsewhere : location = unit.place root start →
      ∀ other ∈ units, before.Takes root start other → location ≠ other.place root start :=
    fun here other member _ => here ▸ differ other member
  have sooner := first.texts location text
  simp only [List.mem_singleton, exists_eq_left, forall_eq] at sooner
  rw [later, sooner]
  simp only [List.mem_cons, exists_eq_or_imp, forall_eq_or_imp]
  constructor
  · rintro (isOther | ⟨⟨taken, here, source⟩ | ⟨old, notFirst⟩, notOther⟩)
    · exact Or.inl (Or.inr isOther)
    · exact Or.inl (Or.inl ⟨taken, here, source⟩)
    · exact Or.inr ⟨old, notFirst, notOther⟩
  · rintro ((⟨taken, here, source⟩ | isOther) | ⟨old, notFirst, notOther⟩)
    · exact Or.inr ⟨Or.inl ⟨taken, here, source⟩, elsewhere here⟩
    · exact Or.inl isOther
    · exact Or.inr ⟨Or.inr ⟨old, notFirst⟩, notOther⟩

/-- What becomes of a disk when one unit is written and then others. -/
theorem Delivered.cons (byName : ∀ other ∈ units, other.GoesByName)
    (differ : ∀ other ∈ units, unit.place root start ≠ other.place root start)
    (first : Delivered root start [unit] before between)
    (others : Delivered root start units between after) :
    Delivered root start (unit :: units) before after where
  workingDirectory := others.workingDirectory.trans first.workingDirectory
  begins := others.begins.trans first.begins
  directories location there := others.directories location (first.directories location there)
  made location there := by
    rcases others.made location there with there | ⟨other, member, onWay⟩
    · rcases first.made location there with before | ⟨other, member, onWay⟩
      · exact Or.inl before
      · exact Or.inr ⟨other, List.mem_cons.mpr (Or.inl (List.mem_singleton.mp member)), onWay⟩
    · exact Or.inr ⟨other, List.mem_cons_of_mem _ member, onWay⟩
  texts := first.texts_cons byName differ others
  reached other member taken step onWay := by
    rcases List.mem_cons.mp member with rfl | isOther
    · exact others.directories step
        (first.reached other (List.mem_singleton_self other) taken step onWay)
    · have takes := (first.takes_iff (byName other isOther)).mpr taken
      exact others.reached other isOther takes step onWay

/-- A unit that has been written is there to be read. -/
theorem find_of_delivered (byName : ∀ other ∈ units, other.GoesByName)
    (delivered : Delivered root start units before after) (member : unit ∈ units)
    (takes : before.Takes root start unit) :
    after.find (Path.append root unit.path) = .ok (.text unit.source) := by
  have leads := CompilationUnit.leadsToFile (byName unit member) root
  have begins : after.start (Path.append root unit.path) = .ok start := by
    rw [CompilationUnit.start_append (byName unit member), delivered.begins,
      ← CompilationUnit.start_append (byName unit member)]
    exact takes.started
  have walked : after.view.walk start (unit.directories root) =
      .ok (follow start (unit.directories root)) :=
    (after.view.walk_eq_ok_iff _ _ _).mpr
      ⟨rfl, fun part isPart => takes.short part (List.mem_append_left _ isPart),
        delivered.reached unit member takes⟩
  have proper : unit.file ∉ [".", ".."] := fun pointed =>
    leads.plain (List.mem_cons_of_mem _ pointed)
  have there : after.view (unit.place root start) = some (.text unit.source) :=
    (delivered.texts _ _).mpr (Or.inl ⟨unit, member, takes, rfl, rfl⟩)
  exact find_text_of_reaches leads.parts_eq ⟨takes.usable, start, begins, walked⟩ proper
    leads.notTrailing (takes.short unit.file (by simp)) there

end FlatDisk

/-! ### Units in any order -/

namespace Disk

/-- Writes units below an output directory, one after another. -/
def deliverAll (disk : Disk) (root : String) (units : List CompilationUnit) :
    List (Except EmissionError Unit) × Disk :=
  (units.mapM (Emitter.toFiles Disk.access root)).run disk

/-- The units of those that have been written. -/
def delivered (disk : Disk) (root : String) (units : List CompilationUnit) :
    List CompilationUnit :=
  ((units.zip (disk.deliverAll root units).1).filter (·.2.isOk)).map Prod.fst

theorem run_toFiles (disk : Disk) (root : String) {unit : CompilationUnit}
    (topLevel : unit.name.isTopLevel) :
    (((Emitter.toFiles Disk.access root unit).run disk).1.isOk,
        ((Emitter.toFiles Disk.access root unit).run disk).2.flat) =
      disk.flat.deliver (Path.append root unit.path) unit.source := by
  rw [Emitter.toFiles, Emitter.topLevelOnly, if_pos topLevel, FlatDisk.deliver,
    ← ensureDirectories_flat]
  dsimp only [Disk.access, StateT.run_bind, StateT.run_get]
  rcases made : disk.ensureDirectories
    (Path.directoriesAround (Path.append root unit.path)) with ⟨error | ⟨⟨⟩⟩, between⟩
  · simp only [StateT.run_set, StateT.run_pure, bind_pure_comp, map_pure, made, bind_assoc,
      pure_bind, Prod.mk.injEq]
    exact ⟨rfl, rfl⟩
  · simp only [StateT.run_set, StateT.run_pure, bind_pure_comp, map_pure, made, bind_assoc,
      pure_bind, StateT.run_bind, StateT.run_get, ← write_flat]
    rcases between.write (Path.append root unit.path) unit.source with _ | _
    · rfl
    · rfl

theorem deliverAll_cons (disk : Disk) (root : String) (unit : CompilationUnit)
    (units : List CompilationUnit) :
    disk.deliverAll root (unit :: units) =
      let first := (Emitter.toFiles Disk.access root unit).run disk
      let others := deliverAll first.2 root units
      (first.1 :: others.1, others.2) := by
  rw [deliverAll, List.mapM_cons]
  rfl

variable {root : String} {start : Location} {units : List CompilationUnit}

open Classical in
/-- What becomes of a disk when units are written in some order. -/
theorem delivered_deliverAll (byName : ∀ unit ∈ units, unit.GoesByName ∧ unit.name.isTopLevel)
    (places : (units.map (·.place root start)).Nodup) (disk : Disk)
    (begins : ∀ other, disk.flat.start root = .ok other → other = start) :
    (disk.deliverAll root units).1.map (·.isOk) =
        units.map (fun unit => decide (disk.flat.Takes root start unit)) ∧
      FlatDisk.Delivered root start units disk.flat (disk.deliverAll root units).2.flat := by
  induction units generalizing disk with
  | nil => exact ⟨rfl, FlatDisk.delivered_nil disk.flat⟩
  | cons unit units inductionHypothesis =>
    obtain ⟨⟨unitByName, topLevel⟩, othersByName⟩ := List.forall_mem_cons.mp byName
    obtain ⟨differ, otherPlaces⟩ := List.nodup_cons.mp places
    obtain ⟨answer, single⟩ := FlatDisk.delivered_deliver unitByName disk.flat begins
    rw [← run_toFiles disk root topLevel] at answer single
    rw [deliverAll_cons]
    dsimp only at answer single ⊢
    obtain ⟨answers, others⟩ := inductionHypothesis othersByName otherPlaces
      ((Emitter.toFiles Disk.access root unit).run disk).2 fun other started =>
        begins other (single.begins ▸ started)
    have otherNames : ∀ other ∈ units, other.GoesByName := fun other member =>
      (othersByName other member).1
    refine ⟨?_, single.cons otherNames (fun other member same => ?_) others⟩
    · rw [List.map_cons, List.map_cons, answers]
      congr 1
      · exact Bool.eq_iff_iff.mpr (answer.trans decide_eq_true_iff.symm)
      · exact List.map_congr_left fun other member => by
          rw [single.takes_iff (otherNames other member)]
    · exact differ (List.mem_map.mpr ⟨other, member, same.symm⟩)

theorem filter_zip_answers {answers : List (Except EmissionError Unit)}
    {units : List CompilationUnit} {taken : CompilationUnit → Bool}
    (same : answers.map (·.isOk) = units.map taken) :
    ((units.zip answers).filter (·.2.isOk)).map Prod.fst = units.filter taken := by
  induction units generalizing answers with
  | nil => rfl
  | cons unit units inductionHypothesis =>
    cases answers with
    | nil => cases same
    | cons answer answers =>
      obtain ⟨here, later⟩ := List.cons.inj same
      dsimp only at here
      rw [List.zip_cons_cons, List.filter_cons, List.filter_cons, here]
      split
      · rw [List.map_cons, inductionHypothesis later]
      · exact inductionHypothesis later

/-- What has become of the files on a disk when units have been written in some order: some of them
are there, each in a place, and the other files are as they were. -/
structure FilesAfter (disk : Disk) (root : String) (order written : List CompilationUnit)
    (place : CompilationUnit → Location) : Prop where
  answers : (disk.delivered root order).Perm written
  read : ∀ unit ∈ written,
    (disk.deliverAll root order).2.read (Path.append root unit.path) = .ok unit.source
  texts : ∀ location text, (disk.deliverAll root order).2.view location = some (.text text) ↔
    (∃ unit ∈ written, location = place unit ∧ text = unit.source) ∨
      disk.view location = some (.text text) ∧ ∀ unit ∈ written, location ≠ place unit

/-- Which of some units with paths of their own are written, to which places, and what the files are
in the end does not depend on the order in which the units come. -/
theorem exists_filesAfter
    (byName : ∀ unit ∈ units, unit.GoesByName ∧ unit.name.isTopLevel)
    (paths : (units.map fun unit => Path.components unit.path).Nodup) (disk : Disk)
    (root : String) : ∃ written place, written.Sublist units ∧ (written.map place).Nodup ∧
      ∀ order, order.Perm units → FilesAfter disk root order written place := by
  classical
  obtain ⟨start, begins⟩ : ∃ start, ∀ other, disk.flat.start root = .ok other → other = start := by
    rcases disk.flat.start root with _ | start
    · exact ⟨[], fun other impossible => (by cases impossible)⟩
    · exact ⟨start, fun other same => (Except.ok.inj same).symm⟩
  have places : (units.map (·.place root start)).Nodup := by
    refine (paths.of_map _).map_on fun first firstMember second secondMember same => ?_
    obtain ⟨firstPath, firstFree⟩ := (byName first firstMember).1
    obtain ⟨secondPath, secondFree⟩ := (byName second secondMember).1
    refine List.inj_on_of_nodup_map paths firstMember secondMember ?_
    rw [firstPath, secondPath]
    exact (Path.components_ofUnit_eq_iff firstFree.1 firstFree.2 secondFree.1 secondFree.2).mpr
      (CompilationUnit.place_eq_iff.mp same)
  refine ⟨units.filter (fun unit => decide (disk.flat.Takes root start unit)),
    (·.place root start), List.filter_sublist, places.sublist (List.filter_sublist.map _), ?_⟩
  intro order perm
  have orderByName : ∀ unit ∈ order, unit.GoesByName ∧ unit.name.isTopLevel := fun unit member =>
    byName unit (perm.mem_iff.mp member)
  obtain ⟨answers, delivered⟩ := delivered_deliverAll orderByName
    ((perm.map _).nodup_iff.mpr places) disk begins
  have taken : ∀ unit, unit ∈ units.filter (fun unit => decide (disk.flat.Takes root start unit)) ↔
      unit ∈ order ∧ disk.flat.Takes root start unit := by
    intro unit
    rw [List.mem_filter, decide_eq_true_iff, perm.mem_iff]
  refine ⟨?_, fun unit member => ?_, fun location text => ?_⟩
  · rw [Disk.delivered, filter_zip_answers answers]
    exact perm.filter _
  · obtain ⟨isUnit, takes⟩ := (taken unit).mp member
    rw [read, find_flat, FlatDisk.find_of_delivered (fun other isOther =>
      (orderByName other isOther).1) delivered isUnit takes]
    rfl
  · simp only [taken]
    refine (delivered.texts location text).trans (or_congr ?_ (and_congr_right fun _ => ?_))
    · simp only [and_assoc]
    · simp only [and_imp]

/-- A unit is refused where the path of the output directory leads through its place. -/
example : (Disk.mk [] []).delivered "App.java/.."
    [⟨⟨"", "App", []⟩, "App.java", "class App"⟩,
      ⟨⟨"pkg", "User", []⟩, "pkg/User.java", "class User"⟩] =
      [⟨⟨"pkg", "User", []⟩, "pkg/User.java", "class User"⟩] := by
  decide +kernel

end Disk

end ValueGen
