/-
This file derives the name of a field from the name of its accessor. `getFoo` and `isFoo` give
`foo`; the first letter stays a capital when the second one is a capital too, so `getURL` gives
`URL`. A name that would be a reserved word is not taken, and an accessor that fits neither form
gives its own name.
-/

import ValueGen.Text.Lowercase
import ValueGen.Text.Uppercase

namespace ValueGen.FieldName

/-- The words of Java that no field can be named by. -/
def reservedWords : List String :=
  ["abstract", "assert", "boolean", "break", "byte", "case", "catch", "char", "class", "const",
    "continue", "default", "do", "double", "else", "enum", "extends", "final", "finally",
    "float", "for", "goto", "if", "implements", "import", "instanceof", "int", "interface",
    "long", "native", "new", "package", "private", "protected", "public", "return", "short",
    "static", "strictfp", "super", "switch", "synchronized", "this", "throw", "throws",
    "transient", "try", "void", "volatile", "while", "true", "false", "null"]

/-- Whether a name is a reserved word. -/
def isReserved (name : String) : Bool := reservedWords.contains name

/-- Puts the first character into lower case, unless the second one is a capital. -/
def decapitalize : List Char → List Char
  | [] => []
  | [first] => Text.lowercase first
  | first :: second :: rest =>
    if Text.isUppercase second then first :: second :: rest
    else Text.lowercase first ++ second :: rest

/-- The field name that an accessor gives when the leading word `lead` is dropped, if the accessor
starts with it, goes on with a capital and the outcome is not reserved. -/
def dropLead? (lead accessor : String) : Option String := do
  let rest ← lead.toList.isPrefixOf? accessor.toList
  let first ← rest.head?
  let name := String.ofList (decapitalize rest)
  if Text.isUppercase first && !isReserved name then some name else none

/-- The name of the field behind an accessor. -/
def ofAccessor (accessor : String) : String :=
  ((dropLead? "get" accessor).or (dropLead? "is" accessor)).getD accessor

end ValueGen.FieldName
