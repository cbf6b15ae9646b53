/-
This file says which directories are made before a file is written. The paths to them are the path
of the file as far as it goes, cut off behind one of its parts: each of them leads one name further
than the next one, so they are the ways through the parts of the path from the inside out.
-/

import ValueGen.Proofs.Path

namespace ValueGen.Path

/-! ### Joining -/

theorem joinParts_eq_intercalate (parts : List (List Char)) :
    joinParts parts = ['/'].intercalate parts := by
  induction parts with
  | nil => rfl
  | cons first rest inductionHypothesis =>
    cases rest with
    | nil => simp [joinParts]
    | cons next rest =>
      rw [joinParts, inductionHypothesis, List.intercalate_cons_cons]
      · simp
      · simp

theorem joinParts_splitAt (chars : List Char) : joinParts (splitAt '/' chars) = chars := by
  rw [joinParts_eq_intercalate, splitAt_eq_splitOn, List.intercalate_splitOn]

theorem splitAt_joinParts {parts : List (List Char)} (slashFree : ∀ part ∈ parts, '/' ∉ part)
    (nonEmpty : parts ≠ []) : splitAt '/' (joinParts parts) = parts := by
  rw [joinParts_eq_intercalate, splitAt_eq_splitOn, List.splitOn_intercalate '/' slashFree nonEmpty]

/-- A text is cut off where some of its parts are left. -/
theorem joinParts_prefix_append (before after : List (List Char)) :
    joinParts before <+: joinParts (before ++ after) := by
  induction before with
  | nil => exact List.nil_prefix
  | cons first rest inductionHypothesis =>
    cases rest with
    | nil =>
      cases after with
      | nil => exact List.prefix_refl _
      | cons next after => exact List.prefix_append _ _
    | cons next rest =>
      obtain ⟨more, joined⟩ := inductionHypothesis
      refine ⟨more, ?_⟩
      show first ++ '/' :: joinParts (next :: rest) ++ more =
        first ++ '/' :: joinParts (next :: rest ++ after)
      rw [← joined, List.append_assoc, List.cons_append]

/-! ### What a path starts with -/

/-- The parts that have a name. -/
def named (parts : List (List Char)) : List String := (parts.filter (· ≠ [])).map String.ofList

theorem named_append (before after : List (List Char)) :
    named (before ++ after) = named before ++ named after := by
  rw [named, List.filter_append, List.map_append]
  rfl

theorem parts_eq_named (path : String) : parts path = named (splitAt '/' path.toList) := rfl

/-- What a path starts with, and how its parts go on behind it. -/
inductive Opens : List Char → List (List Char) → Prop
  | relative (parts : List (List Char)) : Opens [] parts
  | root (parts : List (List Char)) : Opens ['/'] parts
  | current (parts : List (List Char)) : Opens ['.'] ([] :: parts)

theorem opens_splitStart (path : String) :
    Opens (splitStart path).1 (splitAt '/' (splitStart path).2) ∧
      path.toList = (splitStart path).1 ++ (splitStart path).2 := by
  rw [splitStart]
  split
  · rename_i rest chars
    exact ⟨.root _, chars⟩
  · rename_i chars
    exact ⟨.current [], chars⟩
  · rename_i rest chars
    refine ⟨?_, chars⟩
    rw [splitAt, if_pos rfl]
    exact .current _
  · exact ⟨.relative _, rfl⟩

theorem Opens.of_append {start : List Char} {before after : List (List Char)}
    (opens : Opens start (before ++ after)) (nonEmpty : before ≠ []) : Opens start before := by
  cases before with
  | nil => exact absurd rfl nonEmpty
  | cons first rest =>
    cases opens with
    | relative => exact .relative _
    | root => exact .root _
    | current => exact .current _

/-- A path leads through the name that it starts with, if any, and through its parts. -/
theorem Opens.parts_eq {start : List Char} {parts : List (List Char)} (opens : Opens start parts)
    (slashFree : ∀ part ∈ parts, '/' ∉ part) (nonEmpty : parts ≠ []) :
    Path.parts (String.ofList (start ++ joinParts parts)) =
      Path.parts (String.ofList start) ++ named parts := by
  rw [parts_eq_named, parts_eq_named, String.toList_ofList, String.toList_ofList]
  cases opens with
  | relative =>
    rw [List.nil_append, splitAt_joinParts slashFree nonEmpty]
    rfl
  | root =>
    rw [List.singleton_append, splitAt, if_pos rfl, splitAt_joinParts slashFree nonEmpty]
    rfl
  | current rest =>
    cases rest with
    | nil => rfl
    | cons next rest =>
      have later : ∀ part ∈ next :: rest, '/' ∉ part := fun part member =>
        slashFree part (List.mem_cons_of_mem _ member)
      show named (splitAt '/' (['.'] ++ '/' :: joinParts (next :: rest))) = _
      rw [splitAt_append, splitAt_joinParts later (List.cons_ne_nil _ _)]
      rfl

/-! ### The directories around a path -/

/-- Paths, from the inside out, to the directories that are entered by some names, each of them the
whole path as far as it goes. A single point leads nowhere, so no path has to end with one. -/
inductive Outwards (path : String) : List String → List String → Prop
  | nil : Outwards path [] []
  | point {names paths : List String} (around : Outwards path names paths) :
    Outwards path (names ++ ["."]) paths
  | enter {names paths : List String} {inner name : String} (leads : parts inner = names ++ [name])
    (cut : inner.toList <+: path.toList) (around : Outwards path names paths) :
    Outwards path (names ++ [name]) (inner :: paths)

theorem outwards_ancestorsOf {path : String} {start : List Char} {outward : List (List Char)}
    (opening : ∃ parts, Opens start parts) (opens : outward ≠ [] → Opens start outward.reverse)
    (slashFree : ∀ part ∈ outward, '/' ∉ part)
    (cut : start ++ joinParts outward.reverse <+: path.toList) :
    Outwards path (parts (String.ofList start) ++ named outward.reverse)
      ((ancestorsOf start outward).map (·.text)) := by
  induction outward with
  | nil =>
    obtain ⟨others, opening⟩ := opening
    cases opening with
    | relative => exact .nil
    | root => exact .nil
    | current =>
      have leads : parts (Ancestor.text ⟨['.'], []⟩) = [] ++ ["."] := rfl
      exact .enter leads (by rwa [Ancestor.text, String.toList_ofList]) .nil
  | cons part rest inductionHypothesis =>
    obtain ⟨partFree, restFree⟩ := List.forall_mem_cons.mp slashFree
    have opened := opens (List.cons_ne_nil _ _)
    rw [List.reverse_cons] at opened cut ⊢
    have around := inductionHypothesis
      (fun nonEmpty => opened.of_append (by simpa using nonEmpty)) restFree
      (((List.prefix_append_right_inj start).mpr (joinParts_prefix_append _ _)).trans cut)
    rw [ancestorsOf, named_append, ← List.append_assoc]
    by_cases idle : isIdle part
    · rw [if_pos idle]
      rw [isIdle, Bool.or_eq_true, decide_eq_true_eq, decide_eq_true_eq] at idle
      rcases idle with rfl | rfl
      · rwa [show named [[]] = [] from rfl, List.append_nil]
      · exact .point around
    · have nonEmpty : part ≠ [] := by
        rintro rfl
        exact idle rfl
      have single : named [part] = [String.ofList part] := by simp [named, nonEmpty]
      rw [if_neg idle, List.map_cons, single]
      refine .enter ?_ ?_ around
      · rw [Ancestor.text, List.reverse_cons, opened.parts_eq, named_append, single,
          List.append_assoc]
        · simpa [or_imp, forall_and] using And.intro restFree partFree
        · simp
      · rw [Ancestor.text, List.reverse_cons, String.toList_ofList]
        exact cut

theorem Opens.getLast?_eq {start rest last : List Char} (opens : Opens start (splitAt '/' rest))
    (ends : (splitAt '/' (start ++ rest)).getLast? = some last) (proper : last ≠ ['.']) :
    (splitAt '/' rest).getLast? = some last := by
  generalize split : splitAt '/' rest = parts at opens ⊢
  have nonEmpty : parts ≠ [] := split ▸ splitAt_ne_nil '/' rest
  cases opens with
  | relative => rwa [← split]
  | root =>
    rwa [List.singleton_append, splitAt, if_pos rfl, split, List.getLast?_cons_of_ne_nil nonEmpty]
      at ends
  | current others =>
    rw [List.singleton_append, splitAt, if_neg (by decide), split] at ends
    cases others with
    | nil => exact absurd (Option.some.inj ends).symm proper
    | cons next others => rwa [List.getLast?_cons_cons] at ends ⊢

/-- The directories around a path that ends with a name are those that its other parts enter. -/
theorem outwards_directoriesAround {path file : String} {directories : List String}
    (ends : (splitAt '/' path.toList).getLast? = some file.toList) (proper : file ∉ ["", "."])
    (leads : parts path = directories ++ [file]) :
    Outwards path directories ((directoriesAround path).map (·.text)) := by
  obtain ⟨opens, chars⟩ := opens_splitStart path
  have free : ∀ part ∈ splitAt '/' (splitStart path).2, '/' ∉ part := fun part member =>
    (of_mem_splitAt member).1
  have joined := joinParts_splitAt (splitStart path).2
  have named_file : named [file.toList] = [file] := by
    have nonEmpty : file.toList ≠ [] := fun empty =>
      proper (String.toList_eq_nil_iff.mp empty ▸ List.mem_cons_self)
    simp [named, nonEmpty]
  have busy : isIdle file.toList = false := by
    simp only [List.mem_cons, List.not_mem_nil, or_false, not_or, ← String.toList_inj] at proper
    rw [isIdle, Bool.or_eq_false_iff, decide_eq_false_iff_not, decide_eq_false_iff_not]
    exact proper
  rw [chars] at ends
  obtain ⟨before, split⟩ := List.getLast?_eq_some_iff.mp (opens.getLast?_eq ends fun point =>
    absurd busy (by rw [point]; decide))
  rw [directoriesAround, ancestors]
  rw [split] at opens free joined
  have through := opens.parts_eq free (by simp)
  rw [joined, ← chars, String.ofList_toList, leads, named_append, named_file, ← List.append_assoc]
    at through
  rw [List.append_cancel_right through]
  simp only [split, List.reverse_append, List.reverse_singleton, List.singleton_append, ancestorsOf,
    busy, Bool.false_eq_true, if_false, List.tail_cons]
  have outwards := @outwards_ancestorsOf path (splitStart path).1 before.reverse ⟨_, opens⟩
  rw [List.reverse_reverse] at outwards
  refine outwards (fun nonEmpty => opens.of_append (by simpa using nonEmpty)) ?_ ?_
  · exact fun part member => free part (List.mem_append_left _ (List.mem_reverse.mp member))
  · rw [chars, ← joined, List.prefix_append_right_inj]
    exact joinParts_prefix_append _ _

/-! ### Paths under a directory -/

/-- Appending a path that is not absolute appends its parts. -/
theorem exists_splitAt_append (base : String) {path : String}
    (relative : isAbsolute path = false) :
    ∃ before, splitAt '/' (append base path).toList = before ++ splitAt '/' path.toList ∧
      named before = parts base := by
  rw [append, if_neg (Bool.eq_false_iff.mp relative)]
  by_cases empty : base = ""
  · rw [empty]
    exact ⟨[], by simp, rfl⟩
  · by_cases trailing : base.toList.getLast? = some '/'
    · obtain ⟨before, split⟩ := List.getLast?_eq_some_iff.mp trailing
      refine ⟨splitAt '/' before, ?_, ?_⟩
      · rw [if_pos (by simp [trailing]), String.toList_append, split, List.append_assoc,
          List.singleton_append, splitAt_append]
      · rw [parts_eq_named, split, splitAt_append, named_append]
        exact (List.append_nil _).symm
    · refine ⟨splitAt '/' base.toList, ?_, rfl⟩
      rw [if_neg (by simp [empty, trailing]), String.toList_append, String.toList_append,
        List.append_assoc]
      exact splitAt_append '/' _ _

theorem isAbsolute_append (base : String) {path : String} (relative : isAbsolute path = false) :
    isAbsolute (append base path) = isAbsolute base := by
  rw [append, if_neg (Bool.eq_false_iff.mp relative)]
  by_cases empty : base = ""
  · rw [empty, if_pos (by rfl), String.empty_append, relative]
    rfl
  · have nonEmpty : base.toList ≠ [] := fun chars => empty (String.toList_eq_nil_iff.mp chars)
    rw [isAbsolute, isAbsolute]
    split
    · rw [String.toList_append, List.head?_append_of_ne_nil _ nonEmpty]
    · rw [String.toList_append, String.toList_append, List.append_assoc,
        List.head?_append_of_ne_nil _ nonEmpty]

/-- A path that leads through directories to a file. -/
structure LeadsToFile (path : String) (directories : List String) (file : String) : Prop where
  parts_eq : parts path = directories ++ [file]
  around : Outwards path directories ((directoriesAround path).map (·.text))
  plain : file ∉ ["", ".", ".."]
  notTrailing : path.toList.getLast? ≠ some '/'

/-- A path that spells its names leads to a file under any other path. -/
theorem Spells.leadsToFile {path file : String} {names : List String}
    (spells : Spells path (names ++ [file])) (nonEmpty : "" ∉ names)
    (plain : file ∉ ["", ".", ".."]) (base : String) :
    LeadsToFile (Path.append base path) (parts base ++ names) file := by
  have allNamed : "" ∉ names ++ [file] := by
    rw [List.mem_append, List.mem_singleton, not_or]
    exact ⟨nonEmpty, fun same => plain (same ▸ List.mem_cons_self)⟩
  obtain ⟨before, split, base_parts⟩ := exists_splitAt_append base (spells.not_absolute allNamed)
  have ends : (splitAt '/' (Path.append base path).toList).getLast? = some file.toList := by
    rw [split, spells]
    simp
  have leads : parts (Path.append base path) = (parts base ++ names) ++ [file] := by
    rw [parts_eq_named, split, named_append, base_parts, List.append_assoc, ← parts_eq_named,
      spells.parts_eq allNamed]
  refine ⟨leads, outwards_directoriesAround ends ?_ leads, plain, fun last => ?_⟩
  · simp only [List.mem_cons, List.not_mem_nil, or_false, not_or] at plain ⊢
    exact ⟨plain.1, plain.2.1⟩
  · obtain ⟨chars, slash⟩ := List.getLast?_eq_some_iff.mp last
    rw [slash, splitAt_append] at ends
    have empty : file.toList = [] := (Option.some.inj (ends.symm.trans (by simp [splitAt])))
    exact plain (String.toList_eq_nil_iff.mp empty ▸ List.mem_cons_self)

end ValueGen.Path
