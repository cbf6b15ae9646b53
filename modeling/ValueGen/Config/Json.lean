/-
This file reads settings from JSON and writes a configuration as JSON. The settings are grouped
into three sections; a section or a setting that is missing gives nothing.
-/

import ValueGen.Config.Basic
import ValueGen.Json.Decode

namespace ValueGen

open Json (optional?)

/-- Reads a setting that is there. -/
def Json.given? {Value : Type} (read : Json → Option Value) (value : Json) :
    Option (Option Value) :=
  (read value).map some

open Json (given?)

/-- Reads a count that is below the bound. -/
def Config.countOfJson? (value : Json) : Option Nat :=
  value.natural?.bind fun count => if count < Config.countBound then some count else none

/-- Reads settings. -/
def Settings.ofJson? (value : Json) : Option Settings := do
  let sections ← value.members? ["naming", "output", "execution"]
  let naming ← optional? sections "naming" (Json.members? namingKeys) []
  let output ← optional? sections "output" (Json.members? outputKeys) []
  let execution ← optional? sections "execution" (Json.members? executionKeys) []
  let suffix ← optional? naming "suffix" (given? Json.text?) .none
  let outputDirectory ← optional? output "dir" (given? Json.text?) .none
  let generatorId ← optional? output "generator_id" (given? Json.text?) .none
  let emitDate ← optional? output "emit_date" (given? Json.bool?) .none
  let threads ← optional? execution "threads" (given? Config.countOfJson?) .none
  pure ⟨suffix, outputDirectory, generatorId, emitDate, threads⟩

/-- Writes a configuration. -/
def Config.toJson (config : Config) : Json :=
  .record [
    ("naming", .record [("suffix", .string config.suffix)]),
    ("output", .record [("dir", .string config.outputDirectory),
      ("generator_id", .string config.generatorId), ("emit_date", .bool config.emitDate)]),
    ("execution", .record [("threads", .ofNat config.threads)])]

end ValueGen
