/-
This file says what making directories and writing a file do to a disk. Directories are only added,
and only where the path of the file leads through. They are all there in the end if nothing is in
the way: no text on the way, no name that is too long, and a place to start from.
-/

import ValueGen.Proofs.Disk.Around
import ValueGen.Proofs.Disk.Flat

namespace ValueGen

namespace Location

theorem follow_append (location : Location) (first second : List String) :
    follow location (first ++ second) = follow (follow location first) second := by
  induction first generalizing location with
  | nil => rfl
  | cons part rest inductionHypothesis =>
    rw [List.cons_append, follow, follow]
    split_ifs <;> exact inductionHypothesis _

theorem trail_append (location : Location) (first second : List String) :
    trail location (first ++ second) =
      trail location first ++ trail (follow location first) second := by
  induction first generalizing location with
  | nil => rfl
  | cons part rest inductionHypothesis =>
    rw [List.cons_append, trail, trail, follow]
    split_ifs
    · exact inductionHypothesis _
    · exact inductionHypothesis _
    · rw [inductionHypothesis, List.cons_append]

theorem mem_trail_concat {location step : Location} {names : List String} {name : String} :
    step ∈ trail location (names ++ [name]) ↔ step ∈ trail location names ∨
      name ∉ [".", ".."] ∧ step = follow location names ++ [name] := by
  rw [trail_append, List.mem_append, trail]
  split_ifs with point up
  · simp [trail, point]
  · simp [trail, up]
  · simp [trail, point, up]

theorem follow_of_proper (location : Location) {names : List String}
    (proper : ∀ name ∈ names, name ∉ [".", ".."]) : follow location names = location ++ names := by
  induction names generalizing location with
  | nil => exact (List.append_nil location).symm
  | cons name rest inductionHypothesis =>
    obtain ⟨nameProper, restProper⟩ := List.forall_mem_cons.mp proper
    simp only [List.mem_cons, List.not_mem_nil, or_false, not_or] at nameProper
    rw [follow, if_neg nameProper.1, if_neg nameProper.2, inductionHypothesis _ restProper,
      List.append_assoc, List.singleton_append]

theorem getLast?_of_mem_trail {location step : Location} {names : List String}
    (member : step ∈ trail location names) : ∃ name ∈ names, step.getLast? = some name := by
  induction names generalizing location with
  | nil => exact absurd member List.not_mem_nil
  | cons name rest inductionHypothesis =>
    have later : ∀ other, step ∈ trail other rest →
        ∃ part ∈ name :: rest, step.getLast? = some part := by
      intro other isLater
      obtain ⟨part, isPart, last⟩ := inductionHypothesis isLater
      exact ⟨part, List.mem_cons_of_mem _ isPart, last⟩
    rw [trail] at member
    split_ifs at member
    · exact later _ member
    · exact later _ member
    · rcases List.mem_cons.mp member with rfl | isLater
      · exact ⟨name, List.mem_cons_self, List.getLast?_concat⟩
      · exact later _ isLater

end Location

open Location

namespace FlatDisk

variable {flat before after : FlatDisk} {path inner name : String} {names paths : List String}
  {start : Location}

/-! ### Adding directories -/

/-- A path starts where it has started if no directory is lost. -/
theorem start_of_keeps (workingDirectory : after.workingDirectory = before.workingDirectory)
    (keeps : ∀ location, before.view location = some .directory →
      after.view location = some .directory) (started : before.start path = .ok start) :
    after.start path = .ok start := by
  rw [FlatDisk.start] at started ⊢
  by_cases absolute : Path.isAbsolute path
  · rwa [if_pos absolute] at started ⊢
  · rw [if_neg absolute, DiskView.walk_eq_ok_iff] at started ⊢
    rw [workingDirectory]
    exact ⟨started.1, started.2.1, fun step member => keeps step (started.2.2 step member)⟩

/-- What has been added to a disk is directories at some locations. -/
structure Adds (locations : Location → Prop) (before after : FlatDisk) : Prop where
  workingDirectory : after.workingDirectory = before.workingDirectory
  view : ∀ location, after.view location = before.view location ∨
    before.view location = none ∧ after.view location = some .directory ∧ locations location

namespace Adds

variable {locations others : Location → Prop}

theorem refl (flat : FlatDisk) : Adds locations flat flat := ⟨rfl, fun _ => Or.inl rfl⟩

theorem mono (adds : Adds locations before after) (wider : ∀ location, locations location →
    others location) : Adds others before after :=
  ⟨adds.workingDirectory, fun location =>
    (adds.view location).imp_right fun ⟨nothing, made, here⟩ =>
      ⟨nothing, made, wider location here⟩⟩

theorem trans {between : FlatDisk} (first : Adds locations before between)
    (second : Adds locations between after) : Adds locations before after := by
  refine ⟨second.workingDirectory.trans first.workingDirectory, fun location => ?_⟩
  rcases second.view location with same | ⟨nothing, made, here⟩
  · rw [same]
    exact first.view location
  · rcases first.view location with same | ⟨_, there, _⟩
    · exact Or.inr ⟨same ▸ nothing, made, here⟩
    · exact absurd (nothing.symm.trans there) (by simp)

/-- What stands somewhere stays. -/
theorem keeps (adds : Adds locations before after) {location : Location} {found : Disk.Found}
    (here : before.view location = some found) : after.view location = some found := by
  rcases adds.view location with same | ⟨nothing, _, _⟩
  · rw [same, here]
  · exact absurd (nothing.symm.trans here) (by simp)

theorem text_iff (adds : Adds locations before after) (location : Location) (text : String) :
    after.view location = some (.text text) ↔ before.view location = some (.text text) := by
  refine ⟨fun here => ?_, adds.keeps⟩
  rcases adds.view location with same | ⟨_, made, _⟩
  · rw [← same, here]
  · rw [made] at here
    cases here

theorem start_eq_ok (adds : Adds locations before after) (started : before.start path = .ok start) :
    after.start path = .ok start :=
  start_of_keeps adds.workingDirectory (fun _ => adds.keeps) started

/-- Where nothing can be added, nothing has changed. -/
theorem eq_of_forall_not (adds : Adds locations before after)
    (nowhere : ∀ location, ¬ locations location) : after = before := by
  obtain ⟨workingDirectory, view⟩ := adds
  cases before
  cases after
  rw [mk.injEq]
  refine ⟨funext fun location => ?_, workingDirectory⟩
  exact (view location).resolve_right fun ⟨_, _, here⟩ => nowhere location here

end Adds

/-- The locations that a path enters by some names. -/
def Entered (flat : FlatDisk) (path : String) (names : List String) (location : Location) : Prop :=
  ∃ start, flat.start path = .ok start ∧ location ∈ trail start names

/-- Adding directories where a path leads through does not change where it starts. -/
theorem Adds.start_eq (adds : Adds (Entered before path names) before after) :
    after.start path = before.start path := by
  cases started : before.start path with
  | ok start => exact adds.start_eq_ok started
  | error error =>
    rw [adds.eq_of_forall_not fun location ⟨start, same, _⟩ => by simp [started] at same, started]

theorem entered_append (more : List String) {location : Location}
    (entered : Entered flat path names location) : Entered flat path (names ++ more) location := by
  obtain ⟨start, started, member⟩ := entered
  rw [Entered]
  refine ⟨start, started, ?_⟩
  rw [trail_append]
  exact List.mem_append_left _ member

/-! ### Single accesses -/

theorem bind_eq_ok_iff {Value Result : Type} {access : Except FileError Value}
    {next : Value → Except FileError Result} {result : Result} :
    (access >>= next) = .ok result ↔ ∃ value, access = .ok value ∧ next value = .ok result := by
  cases access <;> simp [bind, Except.bind]

/-- Some names of a path lead to a place. -/
def Reaches (flat : FlatDisk) (path : String) (names : List String) (place : Location) : Prop :=
  Disk.requireUsable path = .ok () ∧
    ∃ start, flat.start path = .ok start ∧ flat.view.walk start names = .ok place

theorem Reaches.unique {place other : Location} (reached : Reaches flat path names place)
    (alike : Reaches flat path names other) : other = place := by
  obtain ⟨_, start, started, walked⟩ := reached
  obtain ⟨_, otherStart, otherStarted, otherWalked⟩ := alike
  have starts := Except.ok.inj (otherStarted.symm.trans started)
  exact Except.ok.inj (otherWalked.symm.trans (starts ▸ walked))

theorem aim_eq_ok_iff (leads : Path.parts path = names ++ [name])
    {target : Option (Location × String)} : flat.aim path = .ok target ↔
      ∃ place, Reaches flat path names place ∧
        target = if name = "." ∨ name = ".." then none else some (place, name) := by
  rw [aim, leads, List.reverse_append, List.reverse_singleton, List.singleton_append]
  simp only [List.reverse_reverse, bind_eq_ok_iff, Reaches, Bool.or_eq_true, decide_eq_true_eq,
    pure, Except.pure, ← apply_ite (Except.ok (ε := FileError)), Except.ok.injEq]
  constructor
  · rintro ⟨⟨⟩, usable, start, started, place, walked, same⟩
    exact ⟨place, ⟨usable, start, started, walked⟩, same.symm⟩
  · rintro ⟨place, ⟨usable, start, started, walked⟩, same⟩
    exact ⟨(), usable, start, started, place, walked, same.symm⟩

theorem makeDirectory_eq_ok_iff (leads : Path.parts path = names ++ [name]) :
    flat.makeDirectory path = .ok after ↔ ∃ place, Reaches flat path names place ∧
      name ∉ [".", ".."] ∧ Disk.requireShort name = .ok () ∧
        flat.view (place ++ [name]) = none ∧ after = flat.set (place ++ [name]) .directory := by
  rw [makeDirectory, bind_eq_ok_iff]
  simp only [aim_eq_ok_iff leads, List.mem_cons, List.not_mem_nil, or_false]
  constructor
  · rintro ⟨target, ⟨place, reached, rfl⟩, made⟩
    by_cases unnamed : name = "." ∨ name = ".."
    · rw [if_pos unnamed] at made
      cases made
    · rw [if_neg unnamed] at made
      obtain ⟨⟨⟩, short, made⟩ := bind_eq_ok_iff.mp made
      rcases nothing : flat.view (place ++ [name]) with _ | _
      · rw [nothing] at made
        exact ⟨place, reached, unnamed, short, nothing, (Except.ok.inj made).symm⟩
      · rw [nothing] at made
        cases made
  · rintro ⟨place, reached, proper, short, nothing, rfl⟩
    refine ⟨_, ⟨place, reached, rfl⟩, ?_⟩
    rw [if_neg proper]
    exact bind_eq_ok_iff.mpr ⟨(), short, by rw [nothing]; rfl⟩

theorem write_eq_ok_iff (leads : Path.parts path = names ++ [name]) {text : String} :
    flat.write path text = .ok after ↔ ∃ place, Reaches flat path names place ∧
      name ∉ [".", ".."] ∧ path.toList.getLast? ≠ some '/' ∧ Disk.requireShort name = .ok () ∧
        flat.view (place ++ [name]) ≠ some .directory ∧
          after = flat.set (place ++ [name]) (.text text) := by
  rw [write, bind_eq_ok_iff]
  simp only [aim_eq_ok_iff leads, List.mem_cons, List.not_mem_nil, or_false]
  constructor
  · rintro ⟨target, ⟨place, reached, rfl⟩, written⟩
    by_cases unnamed : name = "." ∨ name = ".."
    · rw [if_pos unnamed] at written
      cases written
    · rw [if_neg unnamed] at written
      by_cases trailing : Disk.meansDirectory path
      · simp only [if_pos trailing] at written
        cases written
      · simp only [if_neg trailing] at written
        obtain ⟨⟨⟩, short, written⟩ := bind_eq_ok_iff.mp written
        refine ⟨place, reached, unnamed, by simpa [Disk.meansDirectory] using trailing, short, ?_⟩
        rcases found : flat.view (place ++ [name]) with _ | _ | _ <;> rw [found] at written
        · exact ⟨by simp, (Except.ok.inj written).symm⟩
        · exact ⟨by simp, (Except.ok.inj written).symm⟩
        · cases written
  · rintro ⟨place, reached, proper, notTrailing, short, free, rfl⟩
    refine ⟨_, ⟨place, reached, rfl⟩, ?_⟩
    have trailing : ¬ Disk.meansDirectory path := by simpa [Disk.meansDirectory] using notTrailing
    rw [if_neg proper]
    simp only [if_neg trailing]
    refine bind_eq_ok_iff.mpr ⟨(), short, ?_⟩
    rcases found : flat.view (place ++ [name]) with _ | _ | _
    · rfl
    · rfl
    · exact absurd found free

/-- A directory is found where one stands. -/
theorem find_directory_of_reaches (leads : Path.parts path = names ++ [name]) {place : Location}
    (reached : Reaches flat path names place) (short : Disk.requireShort name = .ok ())
    (there : name ∉ [".", ".."] → flat.view (place ++ [name]) = some .directory) :
    flat.find path = .ok .directory := by
  rw [find, bind_eq_ok_iff]
  refine ⟨_, (aim_eq_ok_iff leads).mpr ⟨place, reached, rfl⟩, ?_⟩
  by_cases unnamed : name = "." ∨ name = ".."
  · rw [if_pos unnamed]
    rfl
  · rw [if_neg unnamed]
    refine bind_eq_ok_iff.mpr ⟨(), short, ?_⟩
    rw [there (by simpa using unnamed)]
    rfl

/-- A text is found where one stands. -/
theorem find_text_of_reaches (leads : Path.parts path = names ++ [name]) {place : Location}
    (reached : Reaches flat path names place) (proper : name ∉ [".", ".."])
    (notTrailing : path.toList.getLast? ≠ some '/') (short : Disk.requireShort name = .ok ())
    {text : String} (there : flat.view (place ++ [name]) = some (.text text)) :
    flat.find path = .ok (.text text) := by
  have target := (aim_eq_ok_iff leads).mpr ⟨place, reached, rfl⟩
  rw [if_neg (fun pointed => proper (List.mem_pair.mpr pointed))] at target
  have notDirectory : ¬ Disk.meansDirectory path := by
    simpa [Disk.meansDirectory] using notTrailing
  refine bind_eq_ok_iff.mpr ⟨_, target, bind_eq_ok_iff.mpr ⟨(), short, ?_⟩⟩
  rw [there]
  simp only [if_neg notDirectory]
  rfl

/-! ### Making directories -/

theorem makeDirectory_adds (leads : Path.parts path = names ++ [name])
    (made : flat.makeDirectory path = .ok after) :
    Adds (Entered flat path (names ++ [name])) flat after := by
  obtain ⟨place, ⟨_, start, started, walked⟩, proper, _, nothing, rfl⟩ :=
    (makeDirectory_eq_ok_iff leads).mp made
  refine ⟨rfl, fun location => ?_⟩
  obtain ⟨rfl, _, _⟩ := (flat.view.walk_eq_ok_iff _ _ _).mp walked
  by_cases here : location = follow start names ++ [name]
  · rw [here, view_set_self]
    exact Or.inr ⟨nothing, rfl, start, started, mem_trail_concat.mpr (Or.inr ⟨proper, rfl⟩)⟩
  · exact Or.inl (view_set_other flat _ here)

theorem ensureDirectory_adds (leads : Path.parts path = names ++ [name])
    (made : flat.ensureDirectory path = .ok after) :
    Adds (Entered flat path (names ++ [name])) flat after := by
  rw [ensureDirectory] at made
  rcases outcome : flat.makeDirectory path with error | result
  · rw [outcome] at made
    rcases found : flat.find path with _ | _ | _ <;> simp only [found] at made <;> cases made
    exact .refl flat
  · rw [outcome] at made
    exact Except.ok.inj made ▸ makeDirectory_adds leads outcome

/-- A directory is there after it has been ensured in a place that one gets to, if no text stands
there. -/
theorem ensureDirectory_of_reaches (leads : Path.parts path = names ++ [name]) {place : Location}
    (reached : Reaches flat path names place) (short : Disk.requireShort name = .ok ())
    (clear : name ∉ [".", ".."] → ∀ text, flat.view (place ++ [name]) ≠ some (.text text)) :
    ∃ after, flat.ensureDirectory path = .ok after ∧
      (name ∉ [".", ".."] → after.view (place ++ [name]) = some .directory) := by
  rw [ensureDirectory]
  by_cases free : name ∉ [".", ".."] ∧ flat.view (place ++ [name]) = none
  · rw [(makeDirectory_eq_ok_iff leads).mpr ⟨place, reached, free.1, short, free.2, rfl⟩]
    exact ⟨_, rfl, fun _ => view_set_self _ _ _⟩
  · have there : name ∉ [".", ".."] → flat.view (place ++ [name]) = some .directory := by
      intro proper
      rcases found : flat.view (place ++ [name]) with _ | text | _
      · exact absurd ⟨proper, found⟩ free
      · exact absurd found (clear proper text)
      · rfl
    rcases outcome : flat.makeDirectory path with error | after
    · rw [find_directory_of_reaches leads reached short there]
      exact ⟨flat, rfl, there⟩
    · obtain ⟨other, alike, proper, _, nothing, _⟩ := (makeDirectory_eq_ok_iff leads).mp outcome
      exact absurd ⟨proper, reached.unique alike ▸ nothing⟩ free

/-- A directory cannot be ensured where one does not get to. -/
theorem ensureDirectory_of_missing (leads : Path.parts path = names ++ [name])
    (usable : Disk.requireUsable path = .ok ()) (started : flat.start path = .ok start)
    (missing : flat.view.walk start names = .error .notFound) :
    flat.ensureDirectory path = .error .notFound := by
  have aimed : flat.aim path = .error .notFound := by
    rw [aim, leads, List.reverse_append, List.reverse_singleton, List.singleton_append, usable,
      started]
    simp only [List.reverse_reverse]
    show (flat.view.walk start names >>= _) = _
    rw [missing]
    rfl
  rw [ensureDirectory, makeDirectory, find, aimed]
  rfl

/-! ### Making the directories around a path -/

/-- A path that is cut off starts where the whole path starts. -/
theorem start_of_cut (leads : Path.parts inner = names ++ [name])
    (cut : inner.toList <+: path.toList) : flat.start inner = flat.start path := by
  have absolute : Path.isAbsolute inner = Path.isAbsolute path := by
    obtain ⟨more, chars⟩ := cut
    have nonEmpty : inner.toList ≠ [] := by
      intro empty
      rw [Path.parts, empty] at leads
      exact absurd leads (by simp [Path.splitAt])
    rw [Path.isAbsolute, Path.isAbsolute, ← chars, List.head?_append_of_ne_nil _ nonEmpty]
  rw [FlatDisk.start, FlatDisk.start, absolute]

theorem requireUsable_of_cut (usable : Disk.requireUsable path = .ok ())
    (cut : inner.toList <+: path.toList) : Disk.requireUsable inner = .ok () := by
  obtain ⟨more, chars⟩ := cut
  have whole : path = inner ++ String.ofList more := by
    rw [← String.toList_inj, String.toList_append, String.toList_ofList, chars]
  have size : path.utf8ByteSize = inner.utf8ByteSize + (String.ofList more).utf8ByteSize := by
    rw [whole, String.utf8ByteSize_append]
  rw [Disk.requireUsable] at usable ⊢
  split_ifs at usable with nul long
  rw [if_neg, if_neg]
  · omega
  · rw [← chars] at nul
    simp only [List.contains_eq_mem, List.mem_append, decide_eq_true_eq, not_or] at nul ⊢
    exact nul.1

/-- Making the directories around a path only adds directories, where the path leads through. -/
theorem ensureDirectories_adds (outwards : Path.Outwards path names paths) (flat : FlatDisk) :
    Adds (Entered flat path names) flat (flat.ensureDirectories paths).2 := by
  induction outwards generalizing flat with
  | nil => exact .refl flat
  | point around inductionHypothesis =>
    exact (inductionHypothesis flat).mono fun _ => entered_append _
  | @enter names paths inner name leads cut around inductionHypothesis =>
    have single : ∀ {before after : FlatDisk}, before.ensureDirectory inner = .ok after →
        Adds (Entered before path (names ++ [name])) before after := by
      intro before after made
      refine (ensureDirectory_adds leads made).mono fun location entered => ?_
      rwa [Entered, start_of_cut leads cut] at entered
    have others := (inductionHypothesis flat).mono fun _ => entered_append [name]
    have started := others.start_eq
    rw [ensureDirectories]
    rcases made : flat.ensureDirectory inner with error | after
    · cases error with
      | notFound =>
        generalize flat.ensureDirectories paths = result at others started ⊢
        obtain ⟨_ | _, between⟩ := result
        · exact others
        · rcases madeThen : between.ensureDirectory inner with error | after
          · simp only [madeThen]
            exact others
          · simp only [madeThen]
            refine others.trans ((single madeThen).mono fun location entered => ?_)
            rwa [Entered, started] at entered
      | _ => exact .refl flat
    · exact single made

/-- All directories on the way are there after the last one has been made in a place that one gets
to. -/
theorem ensureDirectory_of_clear (leads : Path.parts inner = names ++ [name])
    (usable : Disk.requireUsable inner = .ok ()) (started : flat.start inner = .ok start)
    (short : ∀ part ∈ names ++ [name], Disk.requireShort part = .ok ())
    (there : ∀ step ∈ trail start names, flat.view step = some .directory)
    (clear : ∀ step ∈ trail start (names ++ [name]), ∀ text, flat.view step ≠ some (.text text)) :
    ∃ after, flat.ensureDirectory inner = .ok after ∧
      ∀ step ∈ trail start (names ++ [name]), after.view step = some .directory := by
  have walked : flat.view.walk start names = .ok (follow start names) :=
    (flat.view.walk_eq_ok_iff _ _ _).mpr
      ⟨rfl, fun part member => short part (List.mem_append_left _ member), there⟩
  obtain ⟨after, made, last⟩ := ensureDirectory_of_reaches leads ⟨usable, start, started, walked⟩
    (short name (by simp)) fun proper =>
      clear _ (mem_trail_concat.mpr (Or.inr ⟨proper, rfl⟩))
  refine ⟨after, made, fun step member => ?_⟩
  rcases mem_trail_concat.mp member with before | ⟨proper, rfl⟩
  · exact (ensureDirectory_adds leads made).keeps (there step before)
  · exact last proper

/-- The directories around a path are there after they have been made, if nothing is in the way. -/
theorem ensureDirectories_of_clear (outwards : Path.Outwards path names paths)
    (usable : Disk.requireUsable path = .ok ()) (started : flat.start path = .ok start)
    (short : ∀ name ∈ names, Disk.requireShort name = .ok ())
    (clear : ∀ step ∈ trail start names, ∀ text, flat.view step ≠ some (.text text)) :
    ∃ after, flat.ensureDirectories paths = (.ok (), after) ∧
      ∀ step ∈ trail start names, after.view step = some .directory := by
  induction outwards with
  | nil => exact ⟨flat, rfl, by simp [trail]⟩
  | @point names paths around inductionHypothesis =>
    have same : trail start (names ++ ["."]) = trail start names := by
      rw [trail_append]
      exact List.append_nil _
    rw [same] at clear ⊢
    exact inductionHypothesis (fun name member => short name (List.mem_append_left _ member)) clear
  | @enter names paths inner name leads cut around inductionHypothesis =>
    have innerUsable := requireUsable_of_cut usable cut
    have shortBefore : ∀ part ∈ names, Disk.requireShort part = .ok () := fun part member =>
      short part (List.mem_append_left _ member)
    have clearBefore : ∀ step ∈ trail start names, ∀ text, flat.view step ≠ some (.text text) :=
      fun step member => clear step (mem_trail_concat.mpr (Or.inl member))
    rw [← start_of_cut leads cut] at started
    rw [ensureDirectories]
    rcases flat.view.walk_of_clear start names shortBefore clearBefore with walked | missing
    · obtain ⟨_, _, there⟩ := (flat.view.walk_eq_ok_iff _ _ _).mp walked
      obtain ⟨after, made, reached⟩ :=
        ensureDirectory_of_clear leads innerUsable started short there clear
      rw [made]
      exact ⟨after, rfl, reached⟩
    · obtain ⟨between, madeAround, there⟩ := inductionHypothesis shortBefore clearBefore
      have adds := ensureDirectories_adds around flat
      rw [madeAround] at adds
      obtain ⟨after, made, reached⟩ := ensureDirectory_of_clear leads innerUsable
        (adds.start_eq_ok started) short there
          fun step member text here => clear step member text ((adds.text_iff step text).mp here)
      rw [ensureDirectory_of_missing leads innerUsable started missing, madeAround]
      simp only [made]
      exact ⟨after, rfl, reached⟩

end FlatDisk

end ValueGen
