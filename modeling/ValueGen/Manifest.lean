/-
This file holds manifests: a version and declarations in the order in which they were discovered.
A manifest is written as pretty JSON, and read back if it has the version that is written. The
shape is checked before the version.
-/

import ValueGen.Declaration.Json
import ValueGen.Disk.Access
import ValueGen.Json.Printer
import ValueGen.Json.Reader
import ValueGen.Repository.Basic

namespace ValueGen

/-- A manifest. -/
structure Manifest where
  version : String
  declarations : List Declaration
  deriving DecidableEq, Repr

/-- The reason why a manifest cannot be used. -/
inductive ManifestError
  /-- The file cannot be read. -/
  | unreadable (path : String)
  /-- The text is no JSON, or not of the shape of a manifest. -/
  | malformed
  /-- The manifest has another version. -/
  | versionMismatch (found : String)
  /-- The declarations make no repository. -/
  | invalid (cause : RepositoryError)
  deriving DecidableEq, Repr

namespace Manifest

/-- The version that is written and read. -/
def currentVersion : String := "1.0.0"

end Manifest

/-- The wording of an error without that of its cause. -/
def ManifestError.message : ManifestError → String
  | unreadable path => "failed to read manifest from " ++ path
  | malformed => "failed to deserialize manifest from JSON"
  | versionMismatch found =>
    "manifest version mismatch: expected " ++ Manifest.currentVersion ++ ", found " ++ found
  | invalid _ => "invalid declaration manifest"

namespace Manifest

/-- The manifest of some declarations. -/
def new (declarations : List Declaration) : Manifest := ⟨currentVersion, declarations⟩

/-- The manifest as a JSON value. -/
def toJson (manifest : Manifest) : Json :=
  .record [("version", .string manifest.version),
    ("declarations", .array (manifest.declarations.map Declaration.toJson))]

/-- Reads a manifest of any version from a JSON value. -/
def ofJson? (value : Json) : Option Manifest := do
  let fields ← value.members? ["version", "declarations"]
  let version ← Json.required? fields "version" Json.text?
  let declarations ← Json.optional? fields "declarations" (Json.list? Declaration.ofJson?) []
  pure ⟨version, declarations⟩

/-- Writes a manifest. -/
def print (manifest : Manifest) : String := manifest.toJson.pretty

/-- Reads a manifest. -/
def read (text : String) : Except ManifestError Manifest :=
  match (Json.read text).bind ofJson? with
  | none => .error .malformed
  | some manifest =>
    if manifest.version = currentVersion then .ok manifest
    else .error (.versionMismatch manifest.version)

/-- Reads a manifest from a file. -/
def load {m : Type → Type} [Monad m] (files : FileAccess m) (path : String) :
    m (Except ManifestError Manifest) := do
  match ← files.read path with
  | .ok text => pure (read text)
  | .error _ => pure (.error (.unreadable path))

/-- The repository of the declarations. -/
def repository (manifest : Manifest) : Except ManifestError Repository :=
  (Repository.ofList manifest.declarations).mapError .invalid

end Manifest

end ValueGen
