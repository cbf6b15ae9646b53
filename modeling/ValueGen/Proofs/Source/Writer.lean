/-
This file says how a class is written by a writer that keeps its level of indentation: it goes one
level deeper before the body of a block and gives that level back before the closing brace. The
writer writes the lines of the class, wherever it stands: it puts them as many levels deeper as it
has gone itself, gives back exactly the levels that it has taken, and never gives one back that
there is not. The lines that begin a class come in the order of the classes in the tree.
-/

import ValueGen.Proofs.Synthesis
import ValueGen.Source.Render

namespace ValueGen

open SourceLine (line blank deeper block shift)

/-! ### A writer -/

/-- What a line is written for, if it is no line of a member. -/
inductive LineMark
  /-- The annotation that tells the generator. -/
  | generator
  /-- The first line of a class. -/
  | classHead
  deriving DecidableEq, Repr

/-- A step of a writer. -/
inductive WriterStep
  | push (mark : Option LineMark) (text : String)
  | indent
  | dedent

/-- A writer with the lines that it has written, without their line ends. -/
structure SourceWriter where
  /-- What one level of indentation is written as. -/
  indentation : String
  level : Nat
  written : List String

namespace SourceWriter

/-- A text as a line at a level. Empty lines are not indented. -/
def lineAt (indentation : String) (level : Nat) (text : String) : String :=
  if text.isEmpty then "" else String.join (List.replicate level indentation) ++ text

/-- One step. At the outermost level there is nothing to give back. -/
def step (writer : SourceWriter) : WriterStep → SourceWriter
  | .push _ text =>
    { writer with written := writer.written ++ [lineAt writer.indentation writer.level text] }
  | .indent => { writer with level := writer.level + 1 }
  | .dedent => { writer with level := writer.level - 1 }

/-- Several steps in order. -/
def run (writer : SourceWriter) (steps : List WriterStep) : SourceWriter :=
  steps.foldl step writer

/-- A writer at a level that has not written anything. -/
def startingAt (indentation : String) (level : Nat) : SourceWriter := ⟨indentation, level, []⟩

/-- The text that has been written. -/
def source (writer : SourceWriter) : String :=
  String.join (writer.written.map (· ++ "\n"))

/-- Whether every level that is given back has been taken: no step dedents at the outermost
level. -/
def Guarded (writer : SourceWriter) (steps : List WriterStep) : Prop :=
  ∀ before after, steps = before ++ .dedent :: after → (writer.run before).level ≠ 0

end SourceWriter

/-- The marked lines of steps in order. -/
def WriterStep.marks (steps : List WriterStep) : List (LineMark × String) :=
  steps.filterMap fun
    | .push (some mark) text => some (mark, text)
    | _ => none

/-- A line of a member. -/
def WriterStep.put (text : String) : WriterStep := .push none text

/-! ### The steps for a class -/

namespace GeneratedClass

open WriterStep

/-- The steps for the fields, with an empty line after them. -/
def fieldSteps (fields : List GeneratedField) : List WriterStep :=
  (fields.map fun field =>
    put ("private final " ++ field.type.useForm ++ " " ++ field.name ++ ";")) ++
    if fields.isEmpty then [] else [put ""]

/-- The steps for the constructor. -/
def constructorSteps (simple : String) (fields : List GeneratedField) : List WriterStep :=
  let parameters := fields.map fun field => field.type.useForm ++ " " ++ field.name
  [put ("public " ++ simple ++ "(" ++ ", ".intercalate parameters ++ ")" ++ " \x7b"), .indent] ++
    (fields.map fun field => put ("this." ++ field.name ++ " = " ++ field.name ++ ";")) ++
    [.dedent, put "\x7d"]

/-- The steps for an accessor, with an empty line before it. -/
def accessorSteps (field : GeneratedField) : List WriterStep :=
  [put "", put ("public " ++ field.type.useForm ++ " " ++ field.accessor ++ "()" ++ " \x7b"),
    .indent, put ("return " ++ field.name ++ ";"), .dedent, put "\x7d"]

/-- The steps for the comparison of the field at a position. After the first line the writer goes
two levels deeper, where it stays. -/
def comparisonSteps (last : Nat) (field : GeneratedField) (position : Nat) : List WriterStep :=
  let ending := if position = last then ";" else ""
  if position = 0 then [put ("return " ++ comparison field ++ ending), .indent, .indent]
  else [put ("&& " ++ comparison field ++ ending)]

/-- The steps for the comparisons of all fields. The two levels that have been taken on the way are
given back at the end. -/
def comparedSteps (type : String) (fields : List GeneratedField) : List WriterStep :=
  if fields.isEmpty then [put "return true;"]
  else
    [put (type ++ " other = (" ++ type ++ ") o;")] ++
      (fields.zipIdx.flatMap fun field => comparisonSteps (fields.length - 1) field.1 field.2) ++
      [.dedent, .dedent]

/-- The steps for the `equals` method. -/
def equalsSteps (simple : String) (parameterCount : Nat) (fields : List GeneratedField) :
    List WriterStep :=
  let wildcards := ", ".intercalate (List.replicate parameterCount "?")
  let type := if parameterCount = 0 then simple else simple ++ "<" ++ wildcards ++ ">"
  [put "@Override", put ("public boolean equals(Object o)" ++ " \x7b"), .indent,
    put ("if (this == o)" ++ " \x7b"), .indent, put "return true;", .dedent, put "\x7d",
    put ("if (!(o instanceof " ++ simple ++ "))" ++ " \x7b"), .indent, put "return false;", .dedent,
    put "\x7d"] ++
    comparedSteps type fields ++ [.dedent, put "\x7d"]

/-- The steps for the `hashCode` method. -/
def hashCodeSteps (fields : List GeneratedField) : List WriterStep :=
  [put "@Override", put ("public int hashCode()" ++ " \x7b"), .indent,
    put ("return java.util.Arrays.deepHashCode(new Object[] \x7b" ++
      ", ".intercalate (fields.map (·.name)) ++ "\x7d);"),
    .dedent, put "\x7d"]

/-- The steps for the `toString` method. -/
def toStringSteps (simple : String) (fields : List GeneratedField) : List WriterStep :=
  [put "@Override", put ("public String toString()" ++ " \x7b"), .indent,
    put ("return \"" ++ simple ++ "\x7b\"" ++ descriptionParts fields ++ " + \"\x7d\";"),
    .dedent, put "\x7d"]

/-- The steps for the members of a class without the nested classes. -/
def memberSteps (generated : GeneratedClass) : List WriterStep :=
  let simple := generated.name.simpleName
  fieldSteps generated.fields ++
    constructorSteps simple generated.fields ++
    generated.fields.flatMap accessorSteps ++
    [put ""] ++ equalsSteps simple generated.typeParameters.length generated.fields ++
    [put ""] ++ hashCodeSteps generated.fields ++
    [put ""] ++ toStringSteps simple generated.fields

mutual

/-- The steps for a class, which is nested in another one or not. -/
def classSteps (nested : Bool) : GeneratedClass → List WriterStep
  | ⟨name, source, typeParameters, fields, inner⟩ =>
    let generated : GeneratedClass := ⟨name, source, typeParameters, fields, inner⟩
    [.push (some .classHead) (header nested generated ++ " \x7b"), .indent] ++
      (memberSteps generated ++ nestedSteps inner) ++ [.dedent, put "\x7d"]

/-- The steps for nested classes, each with an empty line before it. -/
def nestedSteps : List GeneratedClass → List WriterStep
  | [] => []
  | first :: rest => [put ""] ++ classSteps true first ++ nestedSteps rest

end

/-- The steps for the unit of an outermost class. -/
def unitSteps (generated : GeneratedClass) (options : RenderOptions) : List WriterStep :=
  let package := generated.name.package
  (if package.isEmpty then [] else [put ("package " ++ package ++ ";"), put ""]) ++
    [.push (some .generator) (generatedBy options)] ++ classSteps false generated

/-- The first line of a class with its mark. -/
def head (nested : Bool) (generated : GeneratedClass) : LineMark × String :=
  (.classHead, header nested generated ++ " \x7b")

end GeneratedClass

/-! ### Lines at a level -/

namespace SourceWriter

/-- Lines as the text that they are at a level. -/
def linesAt (indentation : String) (level : Nat) (lines : List SourceLine) : List String :=
  lines.map fun line => lineAt indentation (level + line.level) line.text

variable (indentation : String) (level : Nat)

@[simp]
theorem lineAt_empty : lineAt indentation level "" = "" := rfl

theorem lineAt_of_ne_empty {text : String} (nonempty : text ≠ "") :
    lineAt indentation level text = String.join (List.replicate level indentation) ++ text := by
  rw [lineAt, if_neg (by simpa using nonempty)]

/-- A line at two levels at once is a line at the second level, put to the first one. -/
theorem lineAt_add (further : Nat) (text : String) :
    lineAt indentation (level + further) text =
      lineAt indentation level (lineAt indentation further text) := by
  by_cases empty : text = ""
  · rw [empty, lineAt_empty, lineAt_empty, lineAt_empty]
  · have nonempty : String.join (List.replicate further indentation) ++ text ≠ "" := by
      simp [String.append_eq_empty_iff, empty]
    rw [lineAt_of_ne_empty _ _ empty, lineAt_of_ne_empty _ further empty,
      lineAt_of_ne_empty _ _ nonempty, List.replicate_add, String.join_append,
      String.append_assoc]

theorem linesAt_append (first second : List SourceLine) :
    linesAt indentation level (first ++ second) =
      linesAt indentation level first ++ linesAt indentation level second := List.map_append

theorem linesAt_line (text : String) :
    linesAt indentation level (line text) = [lineAt indentation level text] := rfl

theorem linesAt_deeper (levels : Nat) (lines : List SourceLine) :
    linesAt indentation level (deeper levels lines) =
      linesAt indentation (level + levels) lines := by
  rw [linesAt, deeper, List.map_map]
  refine List.map_congr_left fun line _ => ?_
  show lineAt indentation (level + (line.level + levels)) line.text = _
  rw [Nat.add_comm line.level, Nat.add_assoc]

theorem linesAt_block (head : String) (body : List SourceLine) :
    linesAt indentation level (block head body) =
      lineAt indentation level (head ++ " \x7b") ::
        (linesAt indentation (level + 1) body ++ [lineAt indentation level "\x7d"]) := by
  rw [block, linesAt_append, linesAt_append, linesAt_deeper, linesAt_line, linesAt_line,
    List.append_assoc]
  rfl

/-- Lines at a level are the lines at the outermost level, put to that level. -/
theorem linesAt_eq_map (lines : List SourceLine) :
    linesAt indentation level lines =
      (linesAt indentation 0 lines).map (lineAt indentation level) := by
  rw [linesAt, linesAt, List.map_map]
  refine List.map_congr_left fun line _ => ?_
  rw [lineAt_add, Function.comp_apply, Nat.zero_add]

/-- What is printed is the lines at the outermost level, each with its line end. -/
theorem printAll_eq (lines : List SourceLine) :
    SourceLine.printAll indentation lines =
      String.join ((linesAt indentation 0 lines).map (· ++ "\n")) := by
  rw [SourceLine.printAll, linesAt, List.map_map]
  refine congrArg String.join (List.map_congr_left fun line _ => ?_)
  rw [SourceLine.print, Function.comp_apply, lineAt, Nat.zero_add]
  split
  · rfl
  · rfl

/-! ### Steps one after the other -/

variable {writer : SourceWriter} {first second : List WriterStep}

theorem run_append (writer : SourceWriter) (first second : List WriterStep) :
    writer.run (first ++ second) = (writer.run first).run second := List.foldl_append

theorem Guarded.append (here : writer.Guarded first) (there : (writer.run first).Guarded second) :
    writer.Guarded (first ++ second) := by
  intro before after split
  -- The level is given back by one of the second steps or by one of the first.
  rcases List.append_eq_append_iff.mp split with
    ⟨between, rfl, inSecond⟩ | ⟨between, inFirst, inSecond⟩
  · rw [run_append]
    exact there between after inSecond
  · cases between with
    | nil =>
      rw [List.append_nil] at inFirst
      exact inFirst ▸ there [] after inSecond.symm
    | cons step between =>
      obtain ⟨rfl, _⟩ := List.cons.inj inSecond
      exact here before between inFirst

theorem guarded_nil (writer : SourceWriter) : writer.Guarded [] :=
  fun before after split => by cases before <;> cases split

theorem guarded_singleton {step : WriterStep} (positive : step = .dedent → writer.level ≠ 0) :
    writer.Guarded [step] := by
  intro before after split
  cases before with
  | nil => exact positive (List.cons.inj split).1
  | cons first before => cases before <;> cases (List.cons.inj split).2

end SourceWriter

open SourceWriter (linesAt lineAt)

theorem WriterStep.marks_append (first second : List WriterStep) :
    marks (first ++ second) = marks first ++ marks second := List.filterMap_append

/-! ### Steps that write lines -/

/-- Steps write lines, some of which are marked: wherever the writer stands, it adds the lines at
its own level, to which it returns, and gives back only levels that it has taken. -/
structure Writes (steps : List WriterStep) (lines : List SourceLine)
    (marks : List (LineMark × String)) : Prop where
  run : ∀ writer : SourceWriter, writer.run steps =
    ⟨writer.indentation, writer.level,
      writer.written ++ linesAt writer.indentation writer.level lines⟩
  guarded : ∀ writer : SourceWriter, writer.Guarded steps
  marks : WriterStep.marks steps = marks

namespace Writes

variable {steps first second : List WriterStep} {lines firstLines secondLines : List SourceLine}
  {marks firstMarks secondMarks : List (LineMark × String)}

theorem nil : Writes [] [] [] where
  run writer := by
    rw [linesAt, List.map_nil, List.append_nil]
    rfl
  guarded := SourceWriter.guarded_nil
  marks := rfl

theorem push (mark : Option LineMark) (text : String) :
    Writes [.push mark text] (line text) (mark.toList.map (·, text)) where
  run _ := rfl
  guarded _ := SourceWriter.guarded_singleton nofun
  marks := by cases mark <;> rfl

theorem put (text : String) : Writes [.put text] (line text) [] := push none text

theorem append (here : Writes first firstLines firstMarks)
    (there : Writes second secondLines secondMarks) :
    Writes (first ++ second) (firstLines ++ secondLines) (firstMarks ++ secondMarks) where
  run writer := by
    rw [SourceWriter.run_append, here.run, there.run, SourceWriter.linesAt_append,
      List.append_assoc]
  guarded writer := (here.guarded writer).append (there.guarded _)
  marks := by rw [WriterStep.marks_append, here.marks, there.marks]

/-- What is written between a level that is taken and the same one given back stands one level
deeper. -/
theorem indented (inside : Writes steps lines marks) :
    Writes ([.indent] ++ steps ++ [.dedent]) (deeper 1 lines) marks where
  run writer := by
    rw [SourceWriter.run_append, SourceWriter.run_append, inside.run, SourceWriter.linesAt_deeper]
    rfl
  guarded writer := by
    -- The level that is given back at the end is the one that has been taken at the start.
    refine .append (.append (SourceWriter.guarded_singleton nofun) (inside.guarded _))
      (SourceWriter.guarded_singleton fun _ => ?_)
    rw [SourceWriter.run_append, inside.run]
    exact Nat.succ_ne_zero writer.level
  marks := by
    rw [WriterStep.marks_append, WriterStep.marks_append, inside.marks]
    exact List.append_nil marks

theorem markedBlock (mark : Option LineMark) (head : String) (inside : Writes steps lines marks) :
    Writes ([.push mark (head ++ " \x7b"), .indent] ++ steps ++ [.dedent, .put "\x7d"])
      (block head lines) (mark.toList.map (·, head ++ " \x7b") ++ marks) := by
  have whole := ((push mark (head ++ " \x7b")).append inside.indented).append (put "\x7d")
  rw [List.append_nil] at whole
  simpa only [SourceLine.block, List.append_assoc, List.cons_append, List.nil_append] using whole

/-- A block in a member. -/
theorem block (head : String) (inside : Writes steps lines marks) :
    Writes ([.put (head ++ " \x7b"), .indent] ++ steps ++ [.dedent, .put "\x7d"])
      (block head lines) marks :=
  markedBlock none head inside

/-- Items that write a line each. -/
theorem map {Item : Type} (items : List Item) (text : Item → String) :
    Writes (items.map fun item => .put (text item)) (items.flatMap fun item => line (text item))
      [] := by
  induction items with
  | nil => exact nil
  | cons item rest inductionHypothesis => exact (put (text item)).append inductionHypothesis

/-- Items that write lines each. -/
theorem flatMap {Item : Type} {stepsOf : Item → List WriterStep}
    {linesOf : Item → List SourceLine} (items : List Item)
    (each : ∀ item, Writes (stepsOf item) (linesOf item) []) :
    Writes (items.flatMap stepsOf) (items.flatMap linesOf) [] := by
  induction items with
  | nil => exact nil
  | cons item rest inductionHypothesis => exact (each item).append inductionHypothesis

end Writes

/-! ### The lines of a class -/

namespace GeneratedClass

open WriterStep (put)

theorem writes_fieldLines (fields : List GeneratedField) :
    Writes (fieldSteps fields) (fieldLines fields) [] := by
  unfold fieldSteps fieldLines
  cases fields with
  | nil => exact .nil
  | cons field rest => exact (Writes.map (field :: rest) _).append (.put "")

theorem writes_constructorLines (simple : String) (fields : List GeneratedField) :
    Writes (constructorSteps simple fields) (constructorLines simple fields) [] :=
  .block _ (.map fields _)

theorem writes_accessorLines (field : GeneratedField) :
    Writes (accessorSteps field) (accessorLines field) [] :=
  (Writes.put "").append (.block _ (.put _))

/-- The comparisons after the first one. The position of the last one is that of the one at hand and
the number of those that follow, which is what each step of the induction keeps. -/
theorem writes_continuation (field : GeneratedField) (rest : List GeneratedField)
    (position : Nat) :
    Writes (((field :: rest).zipIdx (position + 1)).flatMap fun field =>
        comparisonSteps (position + 1 + rest.length) field.1 field.2)
      (comparisonLines.continuation field rest) [] := by
  induction rest generalizing field position with
  | nil =>
    have here : comparisonSteps (position + 1 + 0) field (position + 1) =
        [put ("&& " ++ comparison field ++ ";")] := by
      rw [comparisonSteps, if_neg (Nat.succ_ne_zero position), Nat.add_zero, if_pos rfl]
    rw [List.zipIdx_cons, List.flatMap_cons, List.length_nil, here]
    exact .put _
  | cons next rest inductionHypothesis =>
    have last : position + 1 + (next :: rest).length = position + 1 + 1 + rest.length := by
      rw [List.length_cons]
      omega
    have here : comparisonSteps (position + 1 + 1 + rest.length) field (position + 1) =
        [put ("&& " ++ comparison field)] := by
      rw [comparisonSteps, if_neg (Nat.succ_ne_zero position), if_neg (by omega),
        String.append_empty]
    rw [List.zipIdx_cons, List.flatMap_cons, last, here]
    exact (Writes.put _).append (inductionHypothesis next (position + 1))

theorem writes_comparisonLines (type : String) (fields : List GeneratedField) :
    Writes (comparedSteps type fields)
      ((if fields.isEmpty then [] else line (type ++ " other = (" ++ type ++ ") o;")) ++
        comparisonLines fields) [] := by
  match fields with
  | [] => exact .put _
  | [field] =>
    have deep : Writes [.indent, .indent, .dedent, .dedent] [] [] := Writes.nil.indented.indented
    exact ((Writes.put _).append (.put ("return " ++ comparison field ++ ";"))).append deep
  | first :: second :: rest =>
    have further := (writes_continuation second rest 0).indented.indented
    have twice : deeper 1 (deeper 1 (comparisonLines.continuation second rest)) =
        deeper 2 (comparisonLines.continuation second rest) := by
      simp only [deeper, List.map_map]
      rfl
    have start : comparisonSteps ((first :: second :: rest).length - 1) first 0 =
        [put ("return " ++ comparison first), .indent, .indent] := by
      rw [comparisonSteps, if_pos rfl, if_neg (by simp), String.append_empty]
    have last : (first :: second :: rest).length - 1 = 0 + 1 + rest.length := by
      rw [List.length_cons, List.length_cons]
      omega
    have whole := ((Writes.put (type ++ " other = (" ++ type ++ ") o;")).append
      (.put ("return " ++ comparison first))).append further
    rw [twice] at whole
    rw [comparedSteps, List.zipIdx_cons, List.flatMap_cons, start, last]
    simpa only [List.isEmpty_cons, comparisonLines, List.append_assoc, List.cons_append,
      List.nil_append, List.append_nil, if_neg Bool.false_ne_true] using whole

theorem writes_equalsLines (simple : String) (parameterCount : Nat)
    (fields : List GeneratedField) :
    Writes (equalsSteps simple parameterCount fields) (equalsLines simple parameterCount fields)
      [] := by
  have same : Writes ([put ("if (this == o)" ++ " \x7b"), .indent] ++ [put "return true;"] ++
      [.dedent, put "\x7d"]) (block "if (this == o)" (line "return true;")) [] :=
    .block _ (.put _)
  have instances : Writes ([put ("if (!(o instanceof " ++ simple ++ "))" ++ " \x7b"), .indent] ++
      [put "return false;"] ++ [.dedent, put "\x7d"])
      (block ("if (!(o instanceof " ++ simple ++ "))") (line "return false;")) [] :=
    .block _ (.put _)
  have body := (same.append instances).append (writes_comparisonLines
    (if parameterCount = 0 then simple
      else simple ++ "<" ++ ", ".intercalate (List.replicate parameterCount "?") ++ ">") fields)
  have whole := (Writes.put "@Override").append (.block "public boolean equals(Object o)" body)
  simpa only [equalsSteps, equalsLines, List.append_assoc, List.cons_append, List.nil_append]
    using whole

theorem writes_hashCodeLines (fields : List GeneratedField) :
    Writes (hashCodeSteps fields) (hashCodeLines fields) [] :=
  (Writes.put _).append (.block _ (.put _))

theorem writes_toStringLines (simple : String) (fields : List GeneratedField) :
    Writes (toStringSteps simple fields) (toStringLines simple fields) [] :=
  (Writes.put _).append (.block _ (.put _))

theorem writes_memberLines (generated : GeneratedClass) :
    Writes (memberSteps generated) (memberLines generated) [] :=
  (writes_fieldLines _).append (writes_constructorLines _ _)
    |>.append (.flatMap _ writes_accessorLines)
    |>.append (.put "") |>.append (writes_equalsLines _ _ _)
    |>.append (.put "") |>.append (writes_hashCodeLines _)
    |>.append (.put "") |>.append (writes_toStringLines _ _)

mutual

/-- A class is written with the first line of each class in the tree, the outermost one first. -/
theorem writes_lines (nested : Bool) : (generated : GeneratedClass) →
    Writes (classSteps nested generated) (lines nested generated)
      (head nested generated :: (preorderOfAll generated.nested).map (head true))
  | ⟨name, source, typeParameters, fields, inner⟩ => by
    rw [classSteps, lines]
    exact .markedBlock (some .classHead) _
      ((writes_memberLines _).append (writes_nestedLines inner))

theorem writes_nestedLines : (inner : List GeneratedClass) →
    Writes (nestedSteps inner) (nestedLines inner) ((preorderOfAll inner).map (head true))
  | [] => by
    rw [nestedSteps, nestedLines, preorderOfAll]
    exact .nil
  | ⟨name, source, typeParameters, fields, inner⟩ :: rest => by
    rw [nestedSteps, nestedLines, preorderOfAll, List.map_append, preorder, List.map_cons]
    exact ((Writes.put "").append (writes_lines true _)).append (writes_nestedLines rest)

end

/-- A unit is written with the line that tells the generator before the first lines of classes. -/
theorem writes_unitLines (generated : GeneratedClass) (options : RenderOptions) :
    Writes (unitSteps generated options) (unitLines generated options)
      ((.generator, generatedBy options) :: head false generated ::
        (preorderOfAll generated.nested).map (head true)) := by
  have package : Writes
      (if generated.name.package.isEmpty then []
        else [put ("package " ++ generated.name.package ++ ";"), put ""])
      (if generated.name.package.isEmpty then []
        else line ("package " ++ generated.name.package ++ ";") ++ blank) [] := by
    split
    · exact .nil
    · exact (Writes.put _).append (.put "")
  exact (package.append (.push (some .generator) (generatedBy options))).append
    (writes_lines false generated)

end GeneratedClass

end ValueGen
