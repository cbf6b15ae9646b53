/-
This file holds the configuration of a generation round and the layers it is made of. Every
setting has a default, a file may give any of them, and some can be given by the environment. The
layers are merged setting by setting before anything is checked, so a value that would be refused
does no harm where a later layer gives another one.
-/

import ValueGen.Path
import ValueGen.Text.Character

namespace ValueGen

/-- The configuration of a round. -/
structure Config where
  /-- The suffix that distinguishes the names of declarations and classes. -/
  suffix : String
  /-- The directory for the output, below the root of the project unless it is absolute. -/
  outputDirectory : String
  /-- The name of the generator in the annotation of every class. -/
  generatorId : String
  /-- Whether the annotation tells the time of generation. -/
  emitDate : Bool
  /-- The number of workers; zero leaves the number open. -/
  threads : Nat
  deriving DecidableEq, Repr

/-- The settings that a file gives. -/
structure Settings where
  suffix : Option String
  outputDirectory : Option String
  generatorId : Option String
  emitDate : Option Bool
  threads : Option Nat
  deriving DecidableEq, Repr

/-- The settings that are grouped under `naming`, in order. -/
def Settings.namingKeys : List String := ["suffix"]

/-- The settings that are grouped under `output`, in order. -/
def Settings.outputKeys : List String := ["dir", "generator_id", "emit_date"]

/-- The settings that are grouped under `execution`, in order. -/
def Settings.executionKeys : List String := ["threads"]

/-- The variables of the environment that give settings. -/
structure Environment where
  suffix : Option String
  outputDirectory : Option String
  generatorId : Option String
  threads : Option String
  deriving DecidableEq, Repr

/-- The reason why there is no configuration. -/
inductive ConfigError
  /-- The file is there and cannot be read. -/
  | unreadable
  /-- The text of the file gives no settings. -/
  | malformed
  /-- The suffix is blank. -/
  | blankSuffix
  /-- The name of the generator is blank. -/
  | blankGeneratorId
  deriving DecidableEq, Repr

/-- The wording of an error. -/
def ConfigError.message : ConfigError → String
  | unreadable => "the configuration cannot be read"
  | malformed => "the configuration is malformed"
  | blankSuffix => "naming.suffix must not be blank"
  | blankGeneratorId => "output.generator_id must not be blank"

/-- A file that gives no settings. -/
def Settings.none : Settings := ⟨.none, .none, .none, .none, .none⟩

/-- An environment without variables. -/
def Environment.none : Environment := ⟨.none, .none, .none, .none⟩

namespace Config

/-- The defaults. -/
def default : Config := ⟨"POJO", "generated", "autopojo", false, 0⟩

/-- The least number that is too large for a count. -/
def countBound : Nat := Nat.pow 2 64

/-- Reads a count from a variable: digits with an optional plus sign, below the bound. -/
def readCount? (text : String) : Option Nat :=
  let digits :=
    match text.toList with
    | '+' :: rest => rest
    | chars => chars
  if digits.isEmpty || !digits.all Char.isDigit then none
  else
    let count := digits.foldl (fun total digit => 10 * total + (digit.toNat - 48)) 0
    if count < countBound then some count else none

/-- The settings of a file, with defaults for those it does not give. -/
def ofSettings (settings : Settings) : Config where
  suffix := settings.suffix.getD default.suffix
  outputDirectory := settings.outputDirectory.getD default.outputDirectory
  generatorId := settings.generatorId.getD default.generatorId
  emitDate := settings.emitDate.getD default.emitDate
  threads := settings.threads.getD default.threads

/-- Lets the environment override settings. A count that cannot be read overrides nothing. -/
def override (config : Config) (environment : Environment) : Config :=
  { config with
    suffix := environment.suffix.getD config.suffix
    outputDirectory := environment.outputDirectory.getD config.outputDirectory
    generatorId := environment.generatorId.getD config.generatorId
    threads := (environment.threads.bind readCount?).getD config.threads }

/-- Refuses a blank suffix and a blank name of the generator. -/
def validate (config : Config) : Except ConfigError Config :=
  if Text.isBlank config.suffix then .error .blankSuffix
  else if Text.isBlank config.generatorId then .error .blankGeneratorId
  else .ok config

/-- The output directory of a project. -/
def outputPath (config : Config) (root : String) : String :=
  Path.append root config.outputDirectory

end Config

end ValueGen
