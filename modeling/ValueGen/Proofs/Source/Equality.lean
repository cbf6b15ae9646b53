/-
This file says what the `equals` method of a generated class compares. The method is taken apart and
given the meaning that it has in Java, where a bare name means the local variable or the parameter
of that name and a field of the object only if there is neither. The parameter is called `o` and the
local variable `other`; so the method compares the fields of the two objects exactly if no field
has one of these names, which six accessors give. Where a field has one, it is the other object
itself that is compared with that field of its own.
-/

import ValueGen.Proofs.FieldName
import ValueGen.Proofs.Synthesis.FieldNames
import ValueGen.Source.Render

namespace ValueGen

open SourceLine (line blank deeper block)

/-! ### The method taken apart -/

/-- The ways in which the values of two fields are compared. -/
inductive ComparisonForm
  | floats
  | doubles
  | primitives
  | arrays
  | nestedArrays
  | objects
  deriving DecidableEq, Repr

namespace ComparisonForm

/-- The way in which values of a type are compared. -/
def ofType : TypeExpr → ComparisonForm
  | .named "float" => floats
  | .named "double" => doubles
  | .array (.array _) => nestedArrays
  | .array _ => arrays
  | type => if type.isPrimitive then primitives else objects

/-- The comparison of two expressions. -/
def text (left right : String) (form : ComparisonForm) : String :=
  let call (function : String) := function ++ "(" ++ left ++ ", " ++ right ++ ")"
  match form with
  | floats => call "Float.compare" ++ " == 0"
  | doubles => call "Double.compare" ++ " == 0"
  | primitives => left ++ " == " ++ right
  | arrays => call "java.util.Arrays.equals"
  | nestedArrays => call "java.util.Arrays.deepEquals"
  | objects => call "java.util.Objects.equals"

end ComparisonForm

/-- A comparison of what a bare name means with a field of the local variable. -/
structure FieldComparison where
  form : ComparisonForm
  /-- The bare name on the left. -/
  left : String
  /-- The field on the right. -/
  right : String
  deriving DecidableEq, Repr

/-- An `equals` method: after the check for the same object and the one for the class, the argument
is kept in a local variable of its own type, and all comparisons have to hold. -/
structure EqualsMethod where
  /-- The simple name of the class. -/
  simple : String
  /-- The type of the local variable. -/
  type : String
  parameter : String
  localVariable : String
  comparisons : List FieldComparison

namespace EqualsMethod

/-- Conditions that all have to hold, as one expression over as many lines. -/
def conjunctionLines : List String → List SourceLine
  | [] => line "return true;"
  | [condition] => line ("return " ++ condition ++ ";")
  | first :: second :: rest => line ("return " ++ first) ++ deeper 2 (continuation second rest)
where
  /-- The lines after the first one. -/
  continuation (condition : String) : List String → List SourceLine
    | [] => line ("&& " ++ condition ++ ";")
    | next :: rest => line ("&& " ++ condition) ++ continuation next rest

/-- The lines that the method is written as. -/
def lines (method : EqualsMethod) : List SourceLine :=
  let conditions := method.comparisons.map fun comparison =>
    comparison.form.text comparison.left (method.localVariable ++ "." ++ comparison.right)
  line "@Override" ++
    block ("public boolean equals(Object " ++ method.parameter ++ ")") (
      block ("if (this == " ++ method.parameter ++ ")") (line "return true;") ++
      block ("if (!(" ++ method.parameter ++ " instanceof " ++ method.simple ++ "))")
        (line "return false;") ++
      (if method.comparisons.isEmpty then []
        else line (method.type ++ " " ++ method.localVariable ++ " = (" ++ method.type ++ ") " ++
          method.parameter ++ ";")) ++
      conjunctionLines conditions)

end EqualsMethod

namespace GeneratedClass

/-- The `equals` method of a class. -/
def equalsMethod (generated : GeneratedClass) : EqualsMethod where
  simple := generated.name.simpleName
  type :=
    if generated.typeParameters.length = 0 then generated.name.simpleName
    else generated.name.simpleName ++ "<" ++
      ", ".intercalate (List.replicate generated.typeParameters.length "?") ++ ">"
  parameter := "o"
  localVariable := "other"
  comparisons := generated.fields.map fun field =>
    ⟨.ofType field.type, field.name, field.name⟩

theorem comparison_eq_text (field : GeneratedField) :
    comparison field =
      (ComparisonForm.ofType field.type).text field.name ("other" ++ "." ++ field.name) := by
  obtain ⟨name, accessor, type⟩ := field
  have call (function : String) : function ++ "(" ++ name ++ ", other." ++ name ++ ")" =
      function ++ "(" ++ name ++ ", " ++ ("other" ++ "." ++ name) ++ ")" := by
    have joined : ", other." = ", " ++ ("other" ++ ".") := rfl
    rw [joined]
    simp only [String.append_assoc]
  have equation : name ++ " == other." ++ name = name ++ " == " ++ ("other" ++ "." ++ name) := by
    have joined : " == other." = " == " ++ ("other" ++ ".") := rfl
    rw [joined]
    simp only [String.append_assoc]
  unfold comparison
  simp only [call, equation]
  fun_cases ComparisonForm.ofType type with
  | case1 => rfl
  | case2 => rfl
  | case3 => rfl
  | case4 element notNested =>
    cases element with
    | array inner => exact (notNested inner rfl).elim
    | _ => rfl
  | case5 type notFloat notDouble notNested notArray isPrimitive =>
    split
    · exact (notFloat rfl).elim
    · exact (notDouble rfl).elim
    · exact (notNested _ rfl).elim
    · exact (notArray _ rfl).elim
    · exact if_pos isPrimitive
  | case6 type notFloat notDouble notNested notArray notPrimitive =>
    split
    · exact (notFloat rfl).elim
    · exact (notDouble rfl).elim
    · exact (notNested _ rfl).elim
    · exact (notArray _ rfl).elim
    · exact if_neg notPrimitive

theorem comparisonLines_eq (fields : List GeneratedField) :
    comparisonLines fields = EqualsMethod.conjunctionLines (fields.map comparison) := by
  have further : ∀ (field : GeneratedField) (rest : List GeneratedField),
      comparisonLines.continuation field rest =
        EqualsMethod.conjunctionLines.continuation (comparison field) (rest.map comparison) := by
    intro field rest
    induction rest generalizing field with
    | nil => rfl
    | cons next rest inductionHypothesis =>
      rw [comparisonLines.continuation, inductionHypothesis]
      rfl
  match fields with
  | [] => rfl
  | [field] => rfl
  | first :: second :: rest =>
    rw [comparisonLines, further]
    rfl

/-- The method is what is written. -/
theorem lines_equalsMethod (generated : GeneratedClass) :
    generated.equalsMethod.lines =
      equalsLines generated.name.simpleName generated.typeParameters.length generated.fields := by
  have conditions : (generated.equalsMethod.comparisons.map fun comparison =>
      comparison.form.text comparison.left
        (generated.equalsMethod.localVariable ++ "." ++ comparison.right)) =
      generated.fields.map comparison := by
    rw [equalsMethod, List.map_map]
    exact List.map_congr_left fun field _ => (comparison_eq_text field).symm
  have declared (type : String) : type ++ " " ++ "other" ++ " = (" ++ type ++ ") " ++ "o" ++ ";" =
      type ++ " other = (" ++ type ++ ") o;" := by
    have assigned : " other = (" = " " ++ ("other" ++ " = (") := rfl
    have closed : ") o;" = ") " ++ ("o" ++ ";") := rfl
    rw [assigned, closed]
    simp only [String.append_assoc]
  have checked (simple : String) : "if (!(" ++ "o" ++ " instanceof " ++ simple ++ "))" =
      "if (!(o instanceof " ++ simple ++ "))" := rfl
  unfold EqualsMethod.lines equalsLines
  rw [conditions, comparisonLines_eq]
  simp only [equalsMethod, List.isEmpty_map, declared, checked]
  rfl

end GeneratedClass

/-! ### What the method means -/

/-- What a program is run with: which values are the same object, which are objects of the class,
what a field of an object holds, and how the values of fields are compared. -/
structure Runtime (Value : Type) where
  same : Value → Value → Bool
  isInstance : Value → Bool
  read : Value → String → Value
  compare : ComparisonForm → Value → Value → Bool

/-- What a bare name means in the body of a method. -/
inductive Meaning
  | localVariable
  | parameter
  /-- A field of the object that the method is called on. -/
  | ownField (name : String)
  deriving DecidableEq, Repr

/-- The value of what a name means, for the object that a method is called on and its argument,
which the local variable keeps. -/
def Meaning.value {Value : Type} (runtime : Runtime Value) (this argument : Value) :
    Meaning → Value
  | localVariable => argument
  | parameter => argument
  | ownField name => runtime.read this name

namespace EqualsMethod

/-- What a bare name means: the local variable and the parameter hide a field of their name. -/
def meaning (method : EqualsMethod) (name : String) : Meaning :=
  if name = method.localVariable then .localVariable
  else if name = method.parameter then .parameter
  else .ownField name

/-- What the method gives for an object and an argument. -/
def run (method : EqualsMethod) {Value : Type} (runtime : Runtime Value) (this argument : Value) :
    Bool :=
  runtime.same this argument ||
    (runtime.isInstance argument &&
      method.comparisons.all fun comparison =>
        runtime.compare comparison.form
          ((method.meaning comparison.left).value runtime this argument)
          (runtime.read ((method.meaning method.localVariable).value runtime this argument)
            comparison.right))

end EqualsMethod

/-! ### Fields that are hidden -/

/-- The names of fields that are hidden in the method. -/
def hiddenNames : List String := ["o", "other"]

/-- The accessors that give a field a name that is hidden. -/
def hidingAccessors : List String := ["o", "getO", "isO", "other", "getOther", "isOther"]

theorem ofAccessor_mem_hiddenNames_iff (accessor : String) :
    FieldName.ofAccessor accessor ∈ hiddenNames ↔ accessor ∈ hidingAccessors := by
  have short : FieldName.ofAccessor accessor = "o" ↔
      accessor = "o" ∨ accessor = "getO" ∨ accessor = "isO" :=
    @FieldName.ofAccessor_eq_iff 'O' 'o' [] "o" Text.letterPair_o rfl (by simp)
      (by decide +kernel) (by decide +kernel) accessor
  have noCapital : ∀ char ∈ ['t', 'h', 'e', 'r'].head?, Text.isUppercase char = false := by
    rintro _ ⟨⟩
    decide
  have long : FieldName.ofAccessor accessor = "other" ↔
      accessor = "other" ∨ accessor = "getOther" ∨ accessor = "isOther" :=
    @FieldName.ofAccessor_eq_iff 'O' 'o' ['t', 'h', 'e', 'r'] "other" Text.letterPair_o rfl
      noCapital (by decide +kernel) (by decide +kernel) accessor
  simp only [hiddenNames, hidingAccessors, List.mem_cons, List.not_mem_nil, or_false]
  rw [short, long, or_assoc, or_assoc]

namespace GeneratedClass

variable (generated : GeneratedClass)

theorem meaning_equalsMethod_iff (name : String) :
    generated.equalsMethod.meaning name = .ownField name ↔ name ∉ hiddenNames := by
  show (if name = "other" then Meaning.localVariable
    else if name = "o" then .parameter else .ownField name) = _ ↔ name ∉ ["o", "other"]
  rw [List.mem_cons, List.mem_singleton, not_or]
  split
  · rename_i isLocal
    exact iff_of_false nofun fun other => other.2 isLocal
  · rename_i notLocal
    split
    · rename_i isParameter
      exact iff_of_false nofun fun other => other.1 isParameter
    · rename_i notParameter
      exact iff_of_true rfl ⟨notParameter, notLocal⟩

theorem value_meaning_equalsMethod {Value : Type} (runtime : Runtime Value)
    (this argument : Value) (name : String) :
    (generated.equalsMethod.meaning name).value runtime this argument =
      if name ∈ hiddenNames then argument else runtime.read this name := by
  by_cases hidden : name ∈ hiddenNames
  · rw [if_pos hidden]
    rcases List.mem_cons.mp hidden with rfl | isLocal
    · rfl
    · rw [List.mem_singleton.mp isLocal]
      rfl
  · rw [if_neg hidden, (generated.meaning_equalsMethod_iff name).mpr hidden]
    rfl

/-- A field that is hidden is not read: the other object itself takes its place. -/
theorem run_equalsMethod {Value : Type} (runtime : Runtime Value) (this argument : Value) :
    generated.equalsMethod.run runtime this argument =
      (runtime.same this argument ||
        (runtime.isInstance argument && generated.fields.all fun field =>
          runtime.compare (.ofType field.type)
            (if field.name ∈ hiddenNames then argument else runtime.read this field.name)
            (runtime.read argument field.name))) := by
  have kept : (generated.equalsMethod.meaning generated.equalsMethod.localVariable).value
      runtime this argument = argument := rfl
  rw [EqualsMethod.run, kept]
  simp only [value_meaning_equalsMethod]
  rw [equalsMethod, List.all_map]
  rfl

end GeneratedClass

/-- What the `equals` method of the class for a declaration compares. -/
structure ComparesFields (declaration : Declaration) (generated : GeneratedClass) : Prop where
  /-- Each name on the left of a comparison means the field of this object with the name on the
  right, exactly if no accessor is one of six. -/
  own_iff : (∀ comparison ∈ generated.equalsMethod.comparisons,
      generated.equalsMethod.meaning comparison.left = .ownField comparison.right) ↔
    ∀ accessor ∈ declaration.accessors, accessor.name ∉ hidingAccessors
  /-- Then the fields of this object are compared with the same fields of the other one. -/
  own : (∀ accessor ∈ declaration.accessors, accessor.name ∉ hidingAccessors) →
    ∀ {Value : Type} (runtime : Runtime Value) (this argument : Value),
      generated.equalsMethod.run runtime this argument =
        (runtime.same this argument ||
          (runtime.isInstance argument && generated.fields.all fun field =>
            runtime.compare (.ofType field.type) (runtime.read this field.name)
              (runtime.read argument field.name)))
  /-- Otherwise the other object itself is compared with each of its own fields that is hidden. -/
  hidden : ∀ {Value : Type} (runtime : Runtime Value) (this argument : Value),
    generated.equalsMethod.run runtime this argument =
      (runtime.same this argument ||
        (runtime.isInstance argument && generated.fields.all fun field =>
          runtime.compare (.ofType field.type)
            (if field.name ∈ hiddenNames then argument else runtime.read this field.name)
            (runtime.read argument field.name)))

/-- No field is hidden exactly if no accessor is one of six. -/
theorem forall_not_hidden_iff {declaration : Declaration} {generated : GeneratedClass}
    (named : NamedByAccessors declaration generated) :
    (∀ field ∈ generated.fields, field.name ∉ hiddenNames) ↔
      ∀ accessor ∈ declaration.accessors, accessor.name ∉ hidingAccessors := by
  unfold NamedByAccessors at named
  generalize declaration.accessors = accessors, generated.fields = fields at named ⊢
  induction named with
  | nil => simp
  | cons here _ inductionHypothesis =>
    rw [List.forall_mem_cons, List.forall_mem_cons, inductionHypothesis, here.1,
      ofAccessor_mem_hiddenNames_iff]

theorem comparesFields_of_namedByAccessors {declaration : Declaration}
    {generated : GeneratedClass} (named : NamedByAccessors declaration generated) :
    ComparesFields declaration generated := by
  have shown := forall_not_hidden_iff named
  refine ⟨?_, fun apart Value runtime this argument => ?_, generated.run_equalsMethod⟩
  · rw [← shown]
    refine List.forall_mem_map.trans (forall₂_congr fun field _ => ?_)
    exact generated.meaning_equalsMethod_iff field.name
  · rw [generated.run_equalsMethod]
    congr 2
    rw [Bool.eq_iff_iff, List.all_eq_true, List.all_eq_true]
    refine forall₂_congr fun field member => ?_
    rw [if_neg (shown.mpr apart field member)]

/-! ### Where the method is written -/

/-- Some lines stand among others, one or more levels deeper or not. -/
def LinesWithin (part whole : List SourceLine) : Prop :=
  ∃ level before after, whole = before ++ deeper level part ++ after

namespace LinesWithin

variable {part whole : List SourceLine}

theorem middle (before part after : List SourceLine) :
    LinesWithin part (before ++ part ++ after) := by
  refine ⟨0, before, after, ?_⟩
  have same : deeper 0 part = part := List.map_id part
  rw [same]

theorem append_left (within : LinesWithin part whole) (front : List SourceLine) :
    LinesWithin part (front ++ whole) := by
  obtain ⟨level, before, after, rfl⟩ := within
  exact ⟨level, front ++ before, after, by simp only [List.append_assoc]⟩

theorem append_right (within : LinesWithin part whole) (back : List SourceLine) :
    LinesWithin part (whole ++ back) := by
  obtain ⟨level, before, after, rfl⟩ := within
  exact ⟨level, before, after ++ back, by simp only [List.append_assoc]⟩

theorem block (within : LinesWithin part whole) (head : String) :
    LinesWithin part (SourceLine.block head whole) := by
  obtain ⟨level, before, after, rfl⟩ := within
  have once : LinesWithin part (deeper 1 (before ++ deeper level part ++ after)) := by
    refine ⟨level + 1, deeper 1 before, deeper 1 after, ?_⟩
    simp only [deeper, List.map_append, List.map_map]
    rfl
  exact (once.append_left _).append_right _

theorem refl (lines : List SourceLine) : LinesWithin lines lines := by
  have whole := middle [] lines []
  rwa [List.nil_append, List.append_nil] at whole

theorem trans {outer : List SourceLine} (within : LinesWithin part whole)
    (further : LinesWithin whole outer) : LinesWithin part outer := by
  obtain ⟨level, before, after, rfl⟩ := within
  obtain ⟨outerLevel, outerBefore, outerAfter, rfl⟩ := further
  refine ⟨level + outerLevel, outerBefore ++ deeper outerLevel before,
    deeper outerLevel after ++ outerAfter, ?_⟩
  have twice : deeper outerLevel (deeper level part) = deeper (level + outerLevel) part := by
    rw [deeper, deeper, deeper, List.map_map]
    refine List.map_congr_left fun line _ => ?_
    simp only [Function.comp_apply, SourceLine.shift, Nat.add_assoc]
  rw [← twice]
  simp only [deeper, List.map_append, List.append_assoc]

end LinesWithin

namespace GeneratedClass

theorem within_memberLines (generated : GeneratedClass) :
    LinesWithin generated.equalsMethod.lines generated.memberLines := by
  unfold memberLines
  rw [lines_equalsMethod]
  exact (((LinesWithin.middle _ _ _).append_right _).append_right _).append_right _

mutual

/-- The members of each class in a tree are written. -/
theorem memberLines_within_lines : (outer : GeneratedClass) → (nested : Bool) →
    ∀ generated ∈ outer.preorder, LinesWithin generated.memberLines (lines nested outer)
  | ⟨name, source, typeParameters, fields, inner⟩, nested, generated, member => by
    rw [lines]
    refine LinesWithin.block ?_ _
    rw [preorder, List.mem_cons] at member
    rcases member with rfl | further
    · exact (LinesWithin.refl _).append_right _
    · exact (memberLines_within_nestedLines inner generated further).append_left _

theorem memberLines_within_nestedLines : (inner : List GeneratedClass) →
    ∀ generated ∈ preorderOfAll inner, LinesWithin generated.memberLines (nestedLines inner)
  | [], _, member => by cases member
  | first :: rest, generated, member => by
    rw [nestedLines]
    rw [preorderOfAll, List.mem_append] at member
    rcases member with inFirst | inRest
    · exact ((memberLines_within_lines first true generated inFirst).append_left _).append_right _
    · exact (memberLines_within_nestedLines rest generated inRest).append_left _

end

/-- The method of each class in a tree is written. -/
theorem within_lines (outer : GeneratedClass) (nested : Bool) (generated : GeneratedClass)
    (member : generated ∈ outer.preorder) :
    LinesWithin generated.equalsMethod.lines (lines nested outer) :=
  (within_memberLines generated).trans (memberLines_within_lines outer nested generated member)

end GeneratedClass

/-- What the `equals` methods in the tree for a declaration compare. -/
structure EqualsOfTree (repository : Repository) (declaration : Declaration)
    (outer : GeneratedClass) : Prop where
  /-- The methods are written in the unit. -/
  written : ∀ generated ∈ outer.preorder, ∀ options,
    LinesWithin generated.equalsMethod.lines (outer.unitLines options)
  /-- Each of them compares what the accessors of its declaration let it compare. -/
  compares : List.Forall₂ ComparesFields (repository.nest declaration).declarations outer.preorder

/-- Whatever the cache holds, this is what the `equals` methods in a tree compare that has been put
together for any declaration. -/
theorem equalsOfTree_synthesize (repository : Repository) (suffix : String) (cache : NameCache)
    (declaration : Declaration) (outer : GeneratedClass)
    (made : (((Resolver.remembering repository suffix).synthesize declaration).run cache).1 =
      .ok outer) :
    EqualsOfTree repository declaration outer where
  written generated member _ := (outer.within_lines false generated member).append_left _
  compares := (Resolver.namedByAccessors_preorder made).imp fun _ _ =>
    comparesFields_of_namedByAccessors

/-- A marked interface with an accessor that hides its field, and one without nested in it. -/
def pairRepository : Repository :=
  let pair := (Declaration.interface "pkg" "PairPOJO").withMarker .plain
  let side := (Declaration.interface "pkg" "Side").nestIn pair
  ⟨[pair.withAccessor ⟨"o", "java.lang.Object"⟩, side.withAccessor ⟨"getOrder", "int[][]"⟩],
    by decide⟩

/-- What comes of the marked interface, once the name of the one nested in it has been asked for. -/
def pairOutcome : Except GenerationError GeneratedClass :=
  (((Resolver.remembering pairRepository "POJO").synthesize pairRepository.declarations[0]).run
    (NameCache.after pairRepository "POJO" [(.strict, pairRepository.declarations[1])])).1

/-- There is a tree for the marked interface, and its method makes one comparison. -/
theorem exists_pairOutcome :
    ∃ outer, pairOutcome = .ok outer ∧
      outer.equalsMethod.comparisons = [⟨.objects, "o", "o"⟩] := by
  have told : pairOutcome.map (fun outer => outer.equalsMethod.comparisons) =
      .ok [⟨.objects, "o", "o"⟩] := by
    decide +kernel
  exact exists_of_map_eq_ok told

theorem equalsOfTree_synthesize_pair :
    ∃ outer, pairOutcome = .ok outer ∧
      EqualsOfTree pairRepository pairRepository.declarations[0] outer := by
  obtain ⟨outer, made, _⟩ := exists_pairOutcome
  exact ⟨outer, made, equalsOfTree_synthesize pairRepository "POJO"
    (NameCache.after pairRepository "POJO" [(.strict, pairRepository.declarations[1])])
    pairRepository.declarations[0] outer made⟩

/-- Objects of one class whose fields all hold the same. -/
def alikeRuntime : Runtime String :=
  ⟨fun first second => first == second, fun _ => true, fun _ _ => "held",
    fun _ first second => first == second⟩

/-- The name on the left may mean the parameter, and then two objects with the same fields are not
equal. -/
theorem field_hidden_pair :
    ∃ outer, pairOutcome = .ok outer ∧
      (∃ comparison ∈ outer.equalsMethod.comparisons,
        outer.equalsMethod.meaning comparison.left = .parameter) ∧
      (∀ field ∈ outer.fields,
        alikeRuntime.read "first" field.name = alikeRuntime.read "second" field.name) ∧
      alikeRuntime.isInstance "second" ∧
      outer.equalsMethod.run alikeRuntime "first" "second" = false := by
  obtain ⟨outer, made, comparisons⟩ := exists_pairOutcome
  refine ⟨outer, made, ⟨⟨.objects, "o", "o"⟩, ?_, rfl⟩, fun _ _ => rfl, rfl, ?_⟩
  · rw [comparisons]
    exact List.mem_singleton_self _
  · rw [EqualsMethod.run, comparisons]
    rfl

end ValueGen
