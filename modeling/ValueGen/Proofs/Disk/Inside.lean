/-
This file says which paths lie inside a directory. A path that is appended to a directory adds its
components to those of the directory, unless it is absolute and takes the place of all before it.
So it lies inside, whatever the directory is, if it is not absolute and has no part that leads
upwards; of a directory that is not absolute, nothing else does.
-/

import ValueGen.Proofs.Disk.Around

namespace ValueGen.Path

/-! ### Components -/

/-- What the parts of a path stand for. -/
def steps (path : String) : List Component :=
  (parts path).filterMap fun part =>
    if part = "." then none else if part = ".." then some .parent else some (.normal part)

/-- Whether a path starts with a point that stands for the working directory. -/
def startsAtPoint (path : String) : Bool := path = "." || path.toList.take 2 = ['.', '/']

/-- What the components of a path start with, apart from its parts. -/
def opening (path : String) : List Component :=
  if startsAtPoint path then [.current] else if isAbsolute path then [.root] else []

theorem components_eq (path : String) : components path = opening path ++ steps path := rfl

theorem root_not_mem_steps (path : String) : .root ∉ steps path := by
  intro member
  obtain ⟨part, _, same⟩ := List.mem_filterMap.mp member
  split at same
  · cases same
  · split at same
    · cases same
    · cases same

theorem parent_mem_steps_iff (path : String) : .parent ∈ steps path ↔ ".." ∈ parts path := by
  rw [steps, List.mem_filterMap]
  constructor
  · rintro ⟨part, member, same⟩
    split at same
    · cases same
    · split at same
      · rename_i upwards
        exact upwards ▸ member
      · cases same
  · exact fun member => ⟨"..", member, rfl⟩

theorem isAbsolute_of_startsAtPoint {path : String} (pointed : startsAtPoint path) :
    isAbsolute path = false := by
  rw [startsAtPoint, Bool.or_eq_true, decide_eq_true_eq, decide_eq_true_eq] at pointed
  rcases pointed with rfl | taken
  · rfl
  · rw [isAbsolute, ← List.take_append_drop 2 path.toList, taken]
    rfl

theorem parent_not_mem_opening (path : String) : .parent ∉ opening path := by
  rw [opening]
  cases startsAtPoint path <;> cases isAbsolute path <;> decide

theorem root_mem_opening_iff (path : String) : .root ∈ opening path ↔ isAbsolute path := by
  rw [opening]
  by_cases pointed : startsAtPoint path
  · rw [if_pos pointed, isAbsolute_of_startsAtPoint pointed]
    decide
  · rw [if_neg pointed]
    cases isAbsolute path <;> decide

theorem root_mem_components_iff (path : String) : .root ∈ components path ↔ isAbsolute path := by
  rw [components_eq, List.mem_append, root_mem_opening_iff]
  exact or_iff_left (root_not_mem_steps path)

theorem parent_mem_components_iff (path : String) :
    .parent ∈ components path ↔ ".." ∈ parts path := by
  rw [components_eq, List.mem_append, parent_mem_steps_iff]
  exact or_iff_right (parent_not_mem_opening path)

/-! ### Paths that are appended -/

theorem parts_append (directory : String) {path : String} (relative : isAbsolute path = false) :
    parts (append directory path) = parts directory ++ parts path := by
  obtain ⟨before, split, same⟩ := exists_splitAt_append directory relative
  rw [parts_eq_named, split, named_append, same, ← parts_eq_named]

theorem steps_append (directory : String) {path : String} (relative : isAbsolute path = false) :
    steps (append directory path) = steps directory ++ steps path := by
  rw [steps, parts_append directory relative, List.filterMap_append]
  rfl

/-- What is appended stands behind a slash. -/
theorem exists_toList_append {directory path : String} (named : directory ≠ "")
    (relative : isAbsolute path = false) :
    ∃ rest, (append directory path).toList = directory.toList ++ rest ∧
      (directory.toList.getLast? = some '/' ∨ rest.head? = some '/') := by
  rw [append, if_neg (Bool.eq_false_iff.mp relative)]
  by_cases trailing : directory.toList.getLast? = some '/'
  · rw [if_pos (by simp [trailing]), String.toList_append]
    exact ⟨_, rfl, .inl trailing⟩
  · rw [if_neg (by simp [named, trailing]), String.toList_append, String.toList_append,
      List.append_assoc]
    exact ⟨_, rfl, .inr rfl⟩

theorem startsAtPoint_iff (path : String) :
    startsAtPoint path ↔ path.toList = ['.'] ∨ path.toList.take 2 = ['.', '/'] := by
  rw [startsAtPoint, Bool.or_eq_true, decide_eq_true_eq, decide_eq_true_eq,
    ← String.toList_inj]
  rfl

/-- What is appended does not change what a path starts with. -/
theorem startsAtPoint_append {directory path : String} (named : directory ≠ "")
    (relative : isAbsolute path = false) :
    startsAtPoint (append directory path) = startsAtPoint directory := by
  obtain ⟨rest, chars, slash⟩ := exists_toList_append named relative
  rw [Bool.eq_iff_iff, startsAtPoint_iff, startsAtPoint_iff, chars]
  match split : directory.toList with
  | [] => exact absurd (String.toList_eq_nil_iff.mp split) named
  | [char] =>
    rw [split] at slash
    cases rest with
    | nil => rw [List.append_nil]
    | cons next rest =>
      rw [List.getLast?_singleton, List.head?_cons, Option.some_inj, Option.some_inj] at slash
      simp only [List.cons_append, List.nil_append, List.cons.injEq, List.take_succ_cons,
        List.take_zero, List.take_nil, reduceCtorEq, and_false, false_or, and_true, or_false]
      refine ⟨And.left, fun pointed => ⟨pointed, slash.resolve_left ?_⟩⟩
      rw [pointed]
      decide
  | first :: second :: others => simp

theorem components_append {directory path : String} (named : directory ≠ "")
    (relative : isAbsolute path = false) :
    components (append directory path) = components directory ++ steps path := by
  rw [components_eq, components_eq, steps_append directory relative, opening, opening,
    startsAtPoint_append named relative, isAbsolute_append directory relative, List.append_assoc]

/-! ### Paths inside a directory -/

/-- A path lies inside a directory if its components are those of the directory and further ones,
none of which is the root or leads upwards. -/
def LiesIn (directory path : String) : Prop :=
  ∃ further, components path = components directory ++ further ∧
    .root ∉ further ∧ .parent ∉ further

/-- A path that is not absolute and has no part that leads upwards lies inside any directory that it
is appended to. -/
theorem liesIn_append {path : String} (relative : isAbsolute path = false)
    (downwards : ".." ∉ parts path) (directory : String) :
    LiesIn directory (append directory path) := by
  by_cases named : directory = ""
  · rw [named, append_empty]
    refine ⟨components path, rfl, ?_, ?_⟩
    · rwa [root_mem_components_iff, Bool.not_eq_true]
    · rwa [parent_mem_components_iff]
  · refine ⟨steps path, components_append named relative, root_not_mem_steps path, ?_⟩
    rwa [parent_mem_steps_iff]

/-- Nothing else lies inside a directory that is not absolute. -/
theorem liesIn_append_iff {directory : String} (relative : isAbsolute directory = false)
    (path : String) :
    LiesIn directory (append directory path) ↔ isAbsolute path = false ∧ ".." ∉ parts path := by
  refine ⟨fun inside => ?_, fun ⟨notAbsolute, downwards⟩ =>
    liesIn_append notAbsolute downwards directory⟩
  obtain ⟨further, same, rootless, downwards⟩ := inside
  have notAbsolute : isAbsolute path = false := by
    rw [← Bool.not_eq_true]
    intro absolute
    have member := (root_mem_components_iff path).mpr absolute
    rw [append, if_pos absolute] at same
    rw [same, List.mem_append, root_mem_components_iff, relative] at member
    exact member.elim Bool.false_ne_true rootless
  refine ⟨notAbsolute, fun upwards => downwards ?_⟩
  by_cases named : directory = ""
  · rw [named, append_empty] at same
    exact (congrArg (Component.parent ∈ ·) same).mp ((parent_mem_components_iff path).mpr upwards)
  · rw [components_append named notAbsolute, List.append_cancel_left_eq] at same
    rw [← same, parent_mem_steps_iff]
    exact upwards

end ValueGen.Path
