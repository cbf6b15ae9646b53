/-
This file holds the reasons why nothing is generated for a declaration and why a compilation unit is
not emitted, with their wording.
-/

import ValueGen.Disk.Basic
import ValueGen.TypeExpr.Parser

namespace ValueGen

/-- The reason why a compilation unit is not emitted. -/
inductive EmissionError
  /-- The class is nested, and only outermost classes are units. -/
  | notTopLevel (name : String)
  /-- The unit cannot be written. -/
  | unwritable (path : String) (cause : FileError)
  deriving DecidableEq, Repr

/-- The wording of an error. -/
def EmissionError.message : EmissionError → String
  | notTopLevel name => "`" ++ name ++ "` is nested and cannot be emitted on its own"
  | unwritable path cause => "failed to write " ++ path ++ ": " ++ cause.message

/-- The reason why nothing is generated for a declaration. -/
inductive GenerationError
  /-- The declaration is not an interface. -/
  | notAnInterface
  /-- A declaration that has to be generated is not marked, and nothing around it is. -/
  | missingMarker (declaration : String)
  /-- An earlier declaration has the generated name already. -/
  | nameCollision (name claimedBy : String)
  /-- The text of a type cannot be read. -/
  | invalidType (member : String) (cause : TypeSyntaxError)
  /-- An earlier accessor has the field already. -/
  | duplicateField (member field : String)
  /-- The unit was generated and could not be emitted. -/
  | emission (cause : EmissionError)
  deriving DecidableEq, Repr

/-- The wording of an error. -/
def GenerationError.message : GenerationError → String
  | notAnInterface => "not an interface"
  | missingMarker declaration => "missing marker on `" ++ declaration ++ "`"
  | nameCollision name claimedBy =>
    "generated name `" ++ name ++ "` is already taken by `" ++ claimedBy ++ "`"
  | invalidType member cause => "invalid type on `" ++ member ++ "`: " ++ cause.message
  | duplicateField member field =>
    "accessor `" ++ member ++ "` maps to field `" ++ field ++ "`, which is already taken"
  | emission cause => cause.message

end ValueGen
