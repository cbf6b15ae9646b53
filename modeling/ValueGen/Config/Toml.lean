/-
This file reads settings from TOML and finds the configuration of a project. The settings are
grouped into the same three sections as in JSON; keys of other names are passed over. An array
stands for a section that has its items under the keys in order, whatever is left over, and a date
for one that gives nothing. The configuration is what the file in the directory of settings gives,
if it is there, overridden by the environment and then checked.
-/

import ValueGen.Config.Basic
import ValueGen.Disk.Access
import ValueGen.Toml.Document

namespace ValueGen

namespace Toml

/-- The items of an array. -/
def arrayItems? : Toml → Option (List Toml)
  | .array items => some items
  | .tables items => some (items.map (.table .header))
  | _ => none

/-- The fields of a section with some keys. -/
def section? (keys : List String) : Toml → Option Fields
  | .table _ fields => some fields
  | .datetime => some []
  | value => value.arrayItems?.map keys.zip

/-- The text of a string. -/
def text? : Toml → Option String
  | .string text => some text
  | _ => none

/-- The value of a truth value. -/
def bool? : Toml → Option Bool
  | .bool value => some value
  | _ => none

/-- The value of an integer that is a count below the bound. -/
def count? : Toml → Option Nat
  | .integer value =>
    if 0 ≤ value && value < Config.countBound then some value.toNat else none
  | _ => none

/-- Reads a field; a missing one has the default. -/
def field {Value : Type} (fields : Fields) (key : String) (read : Toml → Option Value)
    (default : Value) : Option Value :=
  match fields.lookup key with
  | none => some default
  | some value => read value

/-- Reads a setting, which need not be there. -/
def setting? {Value : Type} (fields : Fields) (key : String) (read : Toml → Option Value) :
    Option (Option Value) :=
  field fields key (fun value => (read value).map some) .none

end Toml

/-- Reads settings. -/
def Settings.ofToml? (fields : Toml.Fields) : Option Settings := do
  let naming ← Toml.field fields "naming" (Toml.section? namingKeys) []
  let output ← Toml.field fields "output" (Toml.section? outputKeys) []
  let execution ← Toml.field fields "execution" (Toml.section? executionKeys) []
  let suffix ← Toml.setting? naming "suffix" Toml.text?
  let outputDirectory ← Toml.setting? output "dir" Toml.text?
  let generatorId ← Toml.setting? output "generator_id" Toml.text?
  let emitDate ← Toml.setting? output "emit_date" Toml.bool?
  let threads ← Toml.setting? execution "threads" Toml.count?
  pure ⟨suffix, outputDirectory, generatorId, emitDate, threads⟩

/-! ### The configuration of a project -/

namespace Config

/-- The directory of settings below the root of a project. -/
def settingsDirectory (root : String) : String := Path.append root ".autopojo"

/-- The file of a project that gives settings. -/
def settingsPath (root : String) : String := Path.append (settingsDirectory root) "config.toml"

/-- Reads the settings of a project; without a file there are none. -/
def readSettings {m : Type → Type} [Monad m] (files : FileAccess m) (root : String) :
    m (Except ConfigError Settings) := do
  if ← files.holds (settingsPath root) then
    match ← files.read (settingsPath root) with
    | .error _ => pure (.error .unreadable)
    | .ok text =>
      match (Toml.read text).bind Settings.ofToml? with
      | none => pure (.error .malformed)
      | some settings => pure (.ok settings)
  else pure (.ok Settings.none)

/-- The configuration of a project. -/
def load {m : Type → Type} [Monad m] (files : FileAccess m) (environment : Environment)
    (root : String) : m (Except ConfigError Config) := do
  match ← readSettings files root with
  | .error error => pure (.error error)
  | .ok settings => pure ((ofSettings settings).override environment).validate

end Config

end ValueGen
