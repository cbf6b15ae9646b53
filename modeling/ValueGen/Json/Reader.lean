/-
This file reads JSON. The reader is a machine that takes one token at a time: it keeps the arrays
and objects that are open, innermost first, and what may come next. A text is JSON when every
token can be taken and nothing is open at the end, so exactly one value, with white space around
it at most, is accepted, however deep it is nested.
-/

import ValueGen.Json.Token

namespace ValueGen

namespace JsonReader

/-- An array or an object that is open while a value in it is read; what it holds already comes
last first. -/
inductive Frame
  | array (done : List Json)
  | object (done : List (Option String × Json)) (key : Option String)

/-- What the reader waits for. -/
inductive Stage
  /-- A value. -/
  | value
  /-- The first item of an array, or its end. -/
  | firstItem
  /-- The first key of an object, or its end. -/
  | firstKey
  /-- A further key of an object. -/
  | key (done : List (Option String × Json))
  /-- The colon after a key. -/
  | colon (done : List (Option String × Json)) (key : Option String)
  /-- What follows a complete value. -/
  | after (value : Json)

/-- Takes a token where a value starts. -/
def startValue (frames : List Frame) : JsonToken → Option (Stage × List Frame)
  | .null => some (.after .null, frames)
  | .bool value => some (.after (.bool value), frames)
  | .number value => some (.after (.number value), frames)
  | .string (some text) => some (.after (.string text), frames)
  | .string none => some (.after .unpaired, frames)
  | .openBracket => some (.firstItem, frames)
  | .openBrace => some (.firstKey, frames)
  | _ => none

/-- Takes a token after a complete value. -/
def afterValue (value : Json) : List Frame → JsonToken → Option (Stage × List Frame)
  | .array done :: frames, .comma => some (.value, .array (value :: done) :: frames)
  | .array done :: frames, .closeBracket => some (.after (.array (value :: done).reverse), frames)
  | .object done key :: frames, .comma => some (.key ((key, value) :: done), frames)
  | .object done key :: frames, .closeBrace =>
    some (.after (.object ((key, value) :: done).reverse), frames)
  | _, _ => none

/-- Takes a token. -/
def step : Stage × List Frame → JsonToken → Option (Stage × List Frame)
  | (.value, frames), token => startValue frames token
  | (.firstItem, frames), .closeBracket => some (.after (.array []), frames)
  | (.firstItem, frames), token => startValue (.array [] :: frames) token
  | (.firstKey, frames), .closeBrace => some (.after (.object []), frames)
  | (.firstKey, frames), .string key => some (.colon [] key, frames)
  | (.key done, frames), .string key => some (.colon done key, frames)
  | (.colon done key, frames), .colon => some (.value, .object done key :: frames)
  | (.after value, frames), token => afterValue value frames token
  | _, _ => none

/-- The value that has been read, if it is complete and nothing is open. -/
def result : Stage × List Frame → Option Json
  | (.after value, []) => some value
  | _ => none

/-- Reads the one value that some tokens make up. -/
def ofTokens (tokens : List JsonToken) : Option Json :=
  (tokens.foldlM step (.value, [])).bind result

end JsonReader

/-- Reads a text that is one JSON value. -/
def Json.read (text : String) : Option Json :=
  (JsonToken.scan text.toList).bind JsonReader.ofTokens

end ValueGen
