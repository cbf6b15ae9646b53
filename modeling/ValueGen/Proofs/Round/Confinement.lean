/-
This file says which files a round writes and when they lie inside the output directory. Each unit
goes to its path below that directory. A package or a class name that starts with a slash, which a
marker may give like any other text, takes the place of the directory, and a class name with double
points between slashes leads out of it; all other units stay inside.
-/

import ValueGen.Proofs.Disk.Inside
import ValueGen.Proofs.Emission
import ValueGen.Proofs.Round.Distinctness

namespace ValueGen

/-! ### Paths of units -/

namespace Path

theorem isAbsolute_append_eq (base path : String) :
    isAbsolute (append base path) = (isAbsolute base || isAbsolute path) := by
  cases absolute : isAbsolute path with
  | true => rw [append, if_pos absolute, absolute, Bool.or_true]
  | false => rw [isAbsolute_append base absolute, Bool.or_false]

theorem isAbsolute_foldl_append (base : String) (names : List String) :
    isAbsolute (names.foldl append base) = (isAbsolute base || names.any isAbsolute) := by
  induction names generalizing base with
  | nil => rw [List.foldl_nil, List.any_nil, Bool.or_false]
  | cons name rest inductionHypothesis =>
    rw [List.foldl_cons, inductionHypothesis, isAbsolute_append_eq, List.any_cons, Bool.or_assoc]

/-- The path of a unit is absolute if anything that it is put together from is. -/
theorem isAbsolute_ofUnit (package topLevel : String) :
    isAbsolute (ofUnit package topLevel) =
      (packageParts package ++ [topLevel ++ ".java"]).any isAbsolute := by
  rw [ofUnit_eq, isAbsolute_append_eq, isAbsolute_foldl_append, List.any_append, List.any_cons,
    List.any_nil, Bool.or_false]
  rfl

theorem parts_foldl_append (base : String) {names : List String}
    (relative : ∀ name ∈ names, isAbsolute name = false) :
    parts (names.foldl append base) = parts base ++ names.flatMap parts := by
  induction names generalizing base with
  | nil => rw [List.foldl_nil, List.flatMap_nil, List.append_nil]
  | cons name rest inductionHypothesis =>
    obtain ⟨nameRelative, restRelative⟩ := List.forall_mem_cons.mp relative
    rw [List.foldl_cons, inductionHypothesis _ restRelative, parts_append base nameRelative,
      List.flatMap_cons, List.append_assoc]

theorem isAbsolute_of_slashFree {path : String} (free : '/' ∉ path.toList) :
    isAbsolute path = false :=
  decide_eq_false fun first => free (List.mem_of_mem_head? first)

/-- What is between the slashes of a path comes out of the path. -/
theorem subset_of_mem_parts {path part : String} (member : part ∈ parts path) :
    part.toList ⊆ path.toList := by
  obtain ⟨chars, isPart, rfl⟩ := List.mem_map.mp member
  rw [String.toList_ofList]
  exact (of_mem_splitAt (List.mem_filter.mp isPart).1).2

/-- Since parts of packages hold no points, only the file name may lead upwards. -/
theorem upwards_mem_parts_ofUnit_iff {package topLevel : String}
    (relative : ∀ name ∈ packageParts package ++ [topLevel ++ ".java"], isAbsolute name = false) :
    ".." ∈ parts (ofUnit package topLevel) ↔ ".." ∈ parts (topLevel ++ ".java") := by
  have partsRelative : ∀ part ∈ packageParts package, isAbsolute part = false :=
    fun part member => relative part (List.mem_append_left _ member)
  have fileRelative := relative _ (List.mem_append_right _ List.mem_cons_self)
  have noPoints : ".." ∉ (packageParts package).flatMap parts := by
    intro member
    obtain ⟨part, isPart, inside⟩ := List.mem_flatMap.mp member
    exact (of_mem_packageParts isPart).2.1 (subset_of_mem_parts inside List.mem_cons_self)
  rw [ofUnit_eq, parts_append _ fileRelative, parts_foldl_append "" partsRelative, List.mem_append,
    List.mem_append]
  exact or_iff_right (not_or.mpr ⟨List.not_mem_nil, noPoints⟩)

end Path

namespace CompilationUnit

variable {unit : CompilationUnit}

/-- Whether no part of the package and no file name of a unit starts with a slash, and nothing
between the slashes of the file name is a double point. -/
def StaysInside (unit : CompilationUnit) : Prop :=
  (∀ name ∈ Path.packageParts unit.name.package ++ [unit.file], Path.isAbsolute name = false) ∧
    ".." ∉ Path.parts unit.file

instance (unit : CompilationUnit) : Decidable unit.StaysInside :=
  inferInstanceAs (Decidable (_ ∧ _))

theorem staysInside_iff
    (led : unit.path = Path.ofUnit unit.name.package unit.name.topLevel) :
    unit.StaysInside ↔ Path.isAbsolute unit.path = false ∧ ".." ∉ Path.parts unit.path := by
  have relative_iff : Path.isAbsolute unit.path = false ↔
      ∀ name ∈ Path.packageParts unit.name.package ++ [unit.file],
        Path.isAbsolute name = false := by
    rw [led, Path.isAbsolute_ofUnit, List.any_eq_false]
    simp only [Bool.not_eq_true]
    rfl
  rw [StaysInside, ← relative_iff]
  refine and_congr_right fun relative => not_congr ?_
  rw [led]
  exact (Path.upwards_mem_parts_ofUnit_iff (relative_iff.mp relative)).symm

theorem staysInside_of_slashFree (free : unit.name.SlashFree) : unit.StaysInside := by
  have plain : unit.file ∉ ["", ".", ".."] := Path.java_not_mem_plain unit.name.topLevel
  have fileFree : '/' ∉ unit.file.toList := by
    rw [file, String.toList_append, List.mem_append, not_or]
    exact ⟨free.2, by decide⟩
  refine ⟨fun name member => Path.isAbsolute_of_slashFree ?_, ?_⟩
  · rcases List.mem_append.mp member with isPart | isFile
    · exact fun slash => free.1 ((Path.of_mem_packageParts isPart).2.2 slash)
    · exact List.mem_singleton.mp isFile ▸ fileFree
  · have named : "" ∉ [unit.file] := fun member => plain (List.mem_singleton.mp member ▸ by decide)
    rw [(Path.Spells.single fileFree).parts_eq named, List.mem_singleton]
    exact fun same => plain (same ▸ by decide)

end CompilationUnit

/-! ### Files that are written -/

section Writes

variable {State : Type}

/-- Keeps a log of the paths that texts are written to. -/
def FileAccess.logging (files : FileAccess (StateM State)) :
    FileAccess (StateM (State × List String)) where
  holds path := fun (state, log) =>
    let (answer, next) := (files.holds path).run state
    (answer, (next, log))
  read path := fun (state, log) =>
    let (answer, next) := (files.read path).run state
    (answer, (next, log))
  ensureDirectories directories := fun (state, log) =>
    let (answer, next) := (files.ensureDirectories directories).run state
    (answer, (next, log))
  write path text := fun (state, log) =>
    let (answer, next) := (files.write path text).run state
    (answer, (next, log ++ [path]))

variable (files : FileAccess (StateM State)) (root : String)

/-- What happens to an outermost class: the directories around its path are made, and then its
source is written. -/
theorem run_toFiles_eq {unit : CompilationUnit} (topLevel : unit.name.isTopLevel) (state : State) :
    (Emitter.toFiles files root unit).run state =
      let path := Path.append root unit.path
      let made := (files.ensureDirectories (Path.directoriesAround path)).run state
      match made.1 with
      | .error cause => (.error (.unwritable path cause), made.2)
      | .ok () =>
        let written := (files.write path unit.source).run made.2
        (written.1.mapError (.unwritable path), written.2) := by
  rw [Emitter.toFiles, Emitter.topLevelOnly, if_pos topLevel, StateT.run_bind]
  dsimp only
  generalize (files.ensureDirectories (Path.directoriesAround (Path.append root unit.path))).run
      state = made
  obtain ⟨error | ⟨⟨⟩⟩, between⟩ := made
  · rfl
  · show (files.write (Path.append root unit.path) unit.source >>= _).run between = _
    rw [StateT.run_bind]
    generalize (files.write (Path.append root unit.path) unit.source).run between = written
    obtain ⟨error | ⟨⟨⟩⟩, after⟩ := written
    · rfl
    · rfl

/-- A unit is written to its path below the output directory and nowhere else, or it is not
written. The log changes nothing else. -/
theorem run_toFiles_logging (unit : CompilationUnit) (state : State) (log : List String) :
    ∃ written, (∀ path ∈ written, path = Path.append root unit.path) ∧
      (Emitter.toFiles files.logging root unit).run (state, log) =
        (((Emitter.toFiles files root unit).run state).1,
          ((Emitter.toFiles files root unit).run state).2, log ++ written) := by
  by_cases topLevel : unit.name.isTopLevel
  · rw [run_toFiles_eq files root topLevel, run_toFiles_eq files.logging root topLevel]
    have made : (files.logging.ensureDirectories
        (Path.directoriesAround (Path.append root unit.path))).run (state, log) =
      let made := (files.ensureDirectories
        (Path.directoriesAround (Path.append root unit.path))).run state
      (made.1, made.2, log) := rfl
    dsimp only
    rw [made]
    generalize (files.ensureDirectories (Path.directoriesAround (Path.append root unit.path))).run
      state = made
    obtain ⟨error | ⟨⟨⟩⟩, between⟩ := made
    · exact ⟨[], fun _ impossible => (by cases impossible), by rw [List.append_nil]⟩
    · exact ⟨[Path.append root unit.path], fun _ member => List.mem_singleton.mp member, rfl⟩
  · rw [Emitter.toFiles, Emitter.toFiles, Emitter.topLevelOnly, Emitter.topLevelOnly,
      if_neg topLevel, if_neg topLevel]
    exact ⟨[], fun _ impossible => (by cases impossible), by rw [List.append_nil]; rfl⟩

/-- The units that are offered are written to their paths below the output directory and nowhere
else. -/
theorem run_offer_toFiles_logging {Place : Type} (unit : Place → CompilationUnit)
    (places : List Place) (state : State) (log : List String) :
    ∃ written, (∀ path ∈ written, ∃ place, path = Path.append root (unit place).path) ∧
      (Round.offer (Emitter.toFiles files.logging root) unit places).run (state, log) =
        (((Round.offer (Emitter.toFiles files root) unit places).run state).1,
          ((Round.offer (Emitter.toFiles files root) unit places).run state).2,
          log ++ written) := by
  induction places generalizing state log with
  | nil => exact ⟨[], fun _ impossible => (by cases impossible), by rw [List.append_nil]; rfl⟩
  | cons place rest inductionHypothesis =>
    obtain ⟨first, firstPath, here⟩ := run_toFiles_logging files root (unit place) state log
    obtain ⟨others, otherPaths, later⟩ := inductionHypothesis
      ((Emitter.toFiles files root (unit place)).run state).2 (log ++ first)
    refine ⟨first ++ others, fun path member => ?_, ?_⟩
    · rcases List.mem_append.mp member with isFirst | isOther
      · exact ⟨place, firstPath path isFirst⟩
      · exact otherPaths path isOther
    · rw [Round.run_offer_cons, Round.run_offer_cons, here]
      dsimp only
      rw [later, List.append_assoc]
      rfl

end Writes

/-! ### The whole round -/

namespace Round

open RoundPlan

/-- Where the files that a round writes lie. -/
structure Confinement (repository : Repository) (config : Config) (now : String)
    (inputs : List repository.Member) : Prop where
  /-- A round writes no file but those of its units, each below the output directory, in whatever
  order the units are offered. This is told by a log, which changes nothing else. -/
  writes : ∀ {State : Type} (files : FileAccess (StateM State)) (root : String) (state : State)
    (turns : Turns), ∃ written : List String,
      (runInOrder repository config now inputs (Emitter.toFiles files.logging root) turns).run
          (state, []) =
        (((runInOrder repository config now inputs (Emitter.toFiles files root) turns).run state).1,
          ((runInOrder repository config now inputs (Emitter.toFiles files root) turns).run
            state).2, written) ∧
        ∀ path ∈ written, ∃ offer ∈ (decisions repository config now inputs).offers,
          path = Path.append root offer.2.path
  /-- A unit lies inside the output directory, whatever that is, if no part of its package and no
  file name starts with a slash and the file name has no double point between slashes. -/
  inside : ∀ offer ∈ (decisions repository config now inputs).offers, offer.2.StaysInside →
    ∀ root, Path.LiesIn root (Path.append root offer.2.path)
  /-- In an output directory that is not absolute lie no other units. -/
  inside_iff : ∀ offer ∈ (decisions repository config now inputs).offers, ∀ root,
    Path.isAbsolute root = false →
      (Path.LiesIn root (Path.append root offer.2.path) ↔ offer.2.StaysInside)
  /-- The package of a unit is that of its task, and its file is named by the marker or, if the
  marker gives no name, for the task. -/
  names : ∀ offer ∈ (decisions repository config now inputs).offers,
    offer.2.name = ⟨offer.1.package, Naming.outerName config.suffix offer.1, []⟩
  /-- Where neither holds a slash, a unit lies inside. -/
  slashFree : ∀ offer ∈ (decisions repository config now inputs).offers,
    '/' ∉ offer.1.package.toList → '/' ∉ (Naming.outerName config.suffix offer.1).toList →
      offer.2.StaysInside

/-- A round writes below its output directory, and inside it exactly if no package and no class name
starts with a slash or leads upwards. -/
theorem confinement_runInOrder (repository : Repository) (config : Config) (now : String)
    (inputs : List repository.Member) : Confinement repository config now inputs := by
  have led : ∀ offer ∈ (decisions repository config now inputs).offers,
      offer.2.path = Path.ofUnit offer.2.name.package offer.2.name.topLevel := by
    intro offer member
    obtain ⟨generated, _, rendered⟩ := exists_class_of_mem_offers member
    rw [← rendered]
    rfl
  refine ⟨fun files root state turns => ?_, fun offer member stays root => ?_,
    fun offer member root relative => ?_, fun offer member => name_of_mem_offers member,
    fun offer member packageFree nameFree => ?_⟩
  · let plan := make repository config.suffix inputs
    let unit := fun place => (plan.classes.get place).2.render (options config now)
    obtain ⟨written, paths, told⟩ := run_offer_toFiles_logging files root unit
      (turns.places plan.classes.length) state []
    refine ⟨written, congrArg (fun outcome : List (Fin plan.classes.length ×
      Except EmissionError Unit) × _ => (plan.report (Turns.arrange outcome.1), outcome.2)) told,
      fun path member => ?_⟩
    obtain ⟨place, rfl⟩ := paths path member
    exact ⟨_, List.mem_map_of_mem (plan.classes.get_mem place), rfl⟩
  · obtain ⟨relative, downwards⟩ := (CompilationUnit.staysInside_iff (led offer member)).mp stays
    exact Path.liesIn_append relative downwards root
  · rw [CompilationUnit.staysInside_iff (led offer member)]
    exact Path.liesIn_append_iff relative offer.2.path
  · refine CompilationUnit.staysInside_of_slashFree ?_
    rw [GeneratedName.SlashFree, name_of_mem_offers member]
    exact ⟨packageFree, nameFree⟩

/-- No name of this round holds a slash, so its units lie inside any output directory. -/
theorem confinement_runInOrder_clashing :
    let offers := (decisions clashingRepository .default ""
      clashingRepository.markedMembers).offers
    offers.map (·.2.path) = ["pkg/User.java"] ∧
      (∀ offer ∈ offers, '/' ∉ offer.1.package.toList ∧
        '/' ∉ (Naming.outerName "POJO" offer.1).toList) ∧
      (∀ offer ∈ offers, offer.2.StaysInside) ∧
      (∀ offer ∈ offers, ∀ root, Path.LiesIn root (Path.append root offer.2.path)) ∧
      Path.isAbsolute "out" = false ∧
      ∀ offer ∈ offers,
        (Path.LiesIn "out" (Path.append "out" offer.2.path) ↔ offer.2.StaysInside) := by
  intro offers
  have confined := confinement_runInOrder clashingRepository .default ""
    clashingRepository.markedMembers
  have slashFree : ∀ offer ∈ offers, '/' ∉ offer.1.package.toList ∧
      '/' ∉ (Naming.outerName "POJO" offer.1).toList := by
    decide +kernel
  have stays : ∀ offer ∈ offers, offer.2.StaysInside := fun offer member =>
    confined.slashFree offer member (slashFree offer member).1 (slashFree offer member).2
  have relative : Path.isAbsolute "out" = false := by decide
  exact ⟨by decide +kernel, slashFree, stays,
    fun offer member => confined.inside offer member (stays offer member), relative,
    fun offer member => confined.inside_iff offer member "out" relative⟩

/-- An interface whose marker gives a name that starts with a slash, and one whose marker gives a
name with double points. -/
def escapingRepository : Repository :=
  let user := (Declaration.interface "pkg" "User").withMarker ⟨some "/tmp/User"⟩
  let address := (Declaration.interface "pkg" "Address").withMarker ⟨some "../../Address"⟩
  ⟨[user, address], by decide⟩

/-- A round may report no error and write its units outside the output directory. -/
theorem unit_outside_escaping :
    ((run escapingRepository .default "" Emitter.inMemory).run []).1 =
        ⟨[⟨"pkg", "/tmp/User", []⟩, ⟨"pkg", "../../Address", []⟩], [], []⟩ ∧
      ((run escapingRepository .default "" (Emitter.toFiles Disk.access.logging "out")).run
        (⟨[], []⟩, [])).2.2 = ["/tmp/User.java", "out/pkg/../../Address.java"] ∧
      ¬ Path.LiesIn "out" "/tmp/User.java" ∧ ¬ Path.LiesIn "out" "out/pkg/../../Address.java" := by
  refine ⟨?_, ?_, ?_, ?_⟩
  · decide +kernel
  · decide +kernel
  · have replaced : Path.append "out" "/tmp/User.java" = "/tmp/User.java" := by decide
    rw [← replaced, Path.liesIn_append_iff (by decide)]
    decide
  · have appended : Path.append "out" "pkg/../../Address.java" = "out/pkg/../../Address.java" := by
      decide
    rw [← appended, Path.liesIn_append_iff (by decide)]
    decide

end Round

end ValueGen
