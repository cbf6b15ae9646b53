/-
This file holds what the readers of particular shapes share. A shape is an object with known
fields: a known field may stand once at most, a field that may be absent has a default, and
unknown fields are passed over together with whatever they hold. An array may stand for the object:
its items are what the known fields hold, in the order of the fields, and where the items end the
other fields are absent.
-/

import ValueGen.Json.Basic

namespace ValueGen.Json

/-- The fields of an object, provided that all keys are texts. -/
def textKeys? {Raw : Type} (fields : List (Option String × Raw)) : Option (List (String × Raw)) :=
  fields.mapM fun field => field.1.map fun key => (key, field.2)

/-- The fields of an object whose keys are all texts. -/
def record? : Json → Option (List (String × Json))
  | object fields => textKeys? fields
  | _ => none

/-- The fields that the items of an array stand for, given the keys in order. There is no item
without a key. -/
def inOrder? {Raw : Type} (keys : List String) (items : List Raw) :
    Option (List (String × Raw)) :=
  if items.length ≤ keys.length then some (keys.zip items) else none

/-- The fields of an object whose keys are all texts, or of an array that stands for an object with
the given keys. -/
def members? (keys : List String) : Json → Option (List (String × Json))
  | array items => inOrder? keys items
  | value => value.record?

/-- The text of a string. -/
def text? : Json → Option String
  | string text => some text
  | _ => none

/-- The truth value of a boolean. -/
def bool? : Json → Option Bool
  | bool value => some value
  | _ => none

/-- The natural number that a number written with digits alone denotes. -/
def natural? : Json → Option Nat
  | number value => value.natural?
  | _ => none

/-- The items of an array, each read in the same way. -/
def list? {Item : Type} (read : Json → Option Item) : Json → Option (List Item)
  | array items => items.mapM read
  | _ => none

/-- Reads a value for which null stands for absence. -/
def nullable? {Value : Type} (read : Json → Option Value) : Json → Option (Option Value)
  | null => some none
  | json => (read json).map some

/-- One of a fixed choice of names. A choice that carries no data may also be written as an object
that maps its name to null. -/
def choice? {Value : Type} (choices : List (String × Value)) : Json → Option Value
  | string name => choices.lookup name
  | object [(some name, null)] => choices.lookup name
  | _ => none

/-- The values that the fields with a given key hold. -/
def valuesOf {Raw : Type} (fields : List (String × Raw)) (key : String) : List Raw :=
  (fields.filter fun field => field.1 = key).map (·.2)

/-- Reads a field that has to stand once. -/
def required? {Raw Value : Type} (fields : List (String × Raw)) (key : String)
    (read : Raw → Option Value) : Option Value :=
  match valuesOf fields key with
  | [value] => read value
  | _ => none

/-- Reads a field that may stand once, with a default for its absence. -/
def optional? {Raw Value : Type} (fields : List (String × Raw)) (key : String)
    (read : Raw → Option Value) (absent : Value) : Option Value :=
  match valuesOf fields key with
  | [] => some absent
  | [value] => read value
  | _ => none

end ValueGen.Json
