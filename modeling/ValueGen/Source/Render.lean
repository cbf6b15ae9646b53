/-
This file writes a generated class as Java source: final fields, a constructor that sets them,
accessors that return them, `equals`, `hashCode` and `toString` over all of them, and then the
nested classes. The outermost class comes with its package and an annotation that names the
generator.
-/

import ValueGen.GeneratedClass
import ValueGen.GeneratedName
import ValueGen.Path
import ValueGen.Source.Lines

namespace ValueGen

/-- What all units of a round are rendered with. -/
structure RenderOptions where
  /-- The name of the generator. -/
  generatorId : String
  /-- The time of generation, if it is to be told. -/
  date : Option String
  /-- What one level of indentation is written as. -/
  indent : String

/-- The options for a generator: no date, four spaces a level. -/
def RenderOptions.plain (generatorId : String) : RenderOptions := ⟨generatorId, none, "    "⟩

namespace GeneratedClass

open SourceLine (line blank deeper block)

/-! ### Fields, constructor and accessors -/

/-- The declarations of the fields, with an empty line after them. -/
def fieldLines (fields : List GeneratedField) : List SourceLine :=
  if fields.isEmpty then []
  else
    fields.flatMap (fun field =>
      line ("private final " ++ field.type.useForm ++ " " ++ field.name ++ ";")) ++ blank

/-- The constructor, which sets every field. -/
def constructorLines (simple : String) (fields : List GeneratedField) : List SourceLine :=
  let parameters := fields.map fun field => field.type.useForm ++ " " ++ field.name
  block ("public " ++ simple ++ "(" ++ ", ".intercalate parameters ++ ")") <|
    fields.flatMap fun field => line ("this." ++ field.name ++ " = " ++ field.name ++ ";")

/-- An accessor, with an empty line before it. -/
def accessorLines (field : GeneratedField) : List SourceLine :=
  blank ++
    block ("public " ++ field.type.useForm ++ " " ++ field.accessor ++ "()")
      (line ("return " ++ field.name ++ ";"))

/-! ### Methods over all fields -/

/-- The comparison of a field with that of the other object: floating-point numbers by their own
comparison, other primitive values directly, arrays by content, all else as objects. -/
def comparison (field : GeneratedField) : String :=
  let name := field.name
  let call (function : String) := function ++ "(" ++ name ++ ", other." ++ name ++ ")"
  match field.type with
  | .named "float" => call "Float.compare" ++ " == 0"
  | .named "double" => call "Double.compare" ++ " == 0"
  | .array (.array _) => call "java.util.Arrays.deepEquals"
  | .array _ => call "java.util.Arrays.equals"
  | type =>
    if type.isPrimitive then name ++ " == other." ++ name
    else call "java.util.Objects.equals"

/-- The comparisons of all fields as one expression over as many lines; the lines after the first
one stand two levels deeper. -/
def comparisonLines : List GeneratedField → List SourceLine
  | [] => line "return true;"
  | [field] => line ("return " ++ comparison field ++ ";")
  | first :: second :: rest =>
    line ("return " ++ comparison first) ++ deeper 2 (continuation second rest)
where
  /-- The lines after the first one, the last of which ends the statement. -/
  continuation (field : GeneratedField) : List GeneratedField → List SourceLine
    | [] => line ("&& " ++ comparison field ++ ";")
    | next :: rest => line ("&& " ++ comparison field) ++ continuation next rest

/-- The `equals` method. -/
def equalsLines (simple : String) (parameterCount : Nat) (fields : List GeneratedField) :
    List SourceLine :=
  let wildcards := ", ".intercalate (List.replicate parameterCount "?")
  let type := if parameterCount = 0 then simple else simple ++ "<" ++ wildcards ++ ">"
  line "@Override" ++
    block "public boolean equals(Object o)" (
      block "if (this == o)" (line "return true;") ++
      block ("if (!(o instanceof " ++ simple ++ "))") (line "return false;") ++
      (if fields.isEmpty then [] else line (type ++ " other = (" ++ type ++ ") o;")) ++
      comparisonLines fields)

/-- The `hashCode` method. -/
def hashCodeLines (fields : List GeneratedField) : List SourceLine :=
  line "@Override" ++
    block "public int hashCode()"
      (line ("return java.util.Arrays.deepHashCode(new Object[] \x7b" ++
        ", ".intercalate (fields.map (·.name)) ++ "\x7d);"))

/-- The expression for a field in `toString`: arrays are written by content. -/
def description (field : GeneratedField) : String :=
  match field.type with
  | .array (.array _) => "java.util.Arrays.deepToString(" ++ field.name ++ ")"
  | .array _ => "java.util.Arrays.toString(" ++ field.name ++ ")"
  | _ => field.name

/-- The part of `toString` for a field after a separator. -/
def descriptionPart (separator : String) (field : GeneratedField) : String :=
  " + \"" ++ separator ++ field.name ++ "=\" + " ++ description field

/-- The parts of `toString` for all fields. -/
def descriptionParts : List GeneratedField → String
  | [] => ""
  | first :: rest =>
    descriptionPart "" first ++ String.join (rest.map (descriptionPart ", "))

/-- The `toString` method. -/
def toStringLines (simple : String) (fields : List GeneratedField) : List SourceLine :=
  line "@Override" ++
    block "public String toString()"
      (line ("return \"" ++ simple ++ "\x7b\"" ++ descriptionParts fields ++ " + \"\x7d\";"))

/-! ### Classes and units -/

/-- The type parameters of the class in the form in which they are declared. -/
def parameterList (parameters : List TypeExpr) : String :=
  if parameters.isEmpty then ""
  else "<" ++ ", ".intercalate (parameters.map (·.declarationForm)) ++ ">"

/-- The first line of a class without its brace. -/
def header (nested : Bool) (generated : GeneratedClass) : String :=
  (if nested then "public static final" else "public final") ++ " class " ++
    generated.name.simpleName ++ parameterList generated.typeParameters

/-- The members of a class without the nested classes. -/
def memberLines (generated : GeneratedClass) : List SourceLine :=
  let simple := generated.name.simpleName
  fieldLines generated.fields ++
    constructorLines simple generated.fields ++
    generated.fields.flatMap accessorLines ++
    blank ++ equalsLines simple generated.typeParameters.length generated.fields ++
    blank ++ hashCodeLines generated.fields ++
    blank ++ toStringLines simple generated.fields

mutual

/-- A class, which is nested in another one or not. -/
def lines (nested : Bool) : GeneratedClass → List SourceLine
  | ⟨name, source, typeParameters, fields, inner⟩ =>
    let generated : GeneratedClass := ⟨name, source, typeParameters, fields, inner⟩
    block (header nested generated) (memberLines generated ++ nestedLines inner)

/-- Nested classes, each with an empty line before it. -/
def nestedLines : List GeneratedClass → List SourceLine
  | [] => []
  | first :: rest => blank ++ lines true first ++ nestedLines rest

end

/-- The annotation that tells the generator and, if it is given, the date. -/
def generatedBy (options : RenderOptions) : String :=
  let identity := StringLiteral.quote options.generatorId
  match options.date with
  | some date =>
    "@javax.annotation.Generated(value = " ++ identity ++ ", date = " ++
      StringLiteral.quote date ++ ")"
  | none => "@javax.annotation.Generated(" ++ identity ++ ")"

/-- The lines of the unit of an outermost class. -/
def unitLines (generated : GeneratedClass) (options : RenderOptions) : List SourceLine :=
  let package := generated.name.package
  (if package.isEmpty then [] else line ("package " ++ package ++ ";") ++ blank) ++
    line (generatedBy options) ++ lines false generated

/-- The unit of an outermost class. -/
def render (generated : GeneratedClass) (options : RenderOptions) : CompilationUnit :=
  ⟨generated.name, Path.ofUnit generated.name.package generated.name.topLevel,
    SourceLine.printAll options.indent (generated.unitLines options)⟩

end GeneratedClass

end ValueGen
