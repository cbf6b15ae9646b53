/-
This file does what a command line asks for, with any way to access files: it loads the
configuration of the project and the manifest, runs a round or lists names, and says what is to be
written to the two outputs and how the program exits.
-/

import ValueGen.CommandLine.Arguments
import ValueGen.Config.Toml
import ValueGen.Json.Printer
import ValueGen.Manifest
import ValueGen.Round.Plan

namespace ValueGen.CommandLine

/-- How the program ends. -/
structure Outcome where
  exitCode : Nat
  stdout : String
  stderr : String
  deriving DecidableEq, Repr

namespace Outcome

/-- The program succeeds. -/
def success (stdout : String) : Outcome := ⟨0, stdout, ""⟩

/-- The program fails for a reason. -/
def failure (reason : String) : Outcome := ⟨1, "", "Error: " ++ reason ++ "\n"⟩

/-- The arguments cannot be read. -/
def misuse (error : UsageError) : Outcome := ⟨2, "", "error: " ++ error.message ++ "\n"⟩

/-- What the program writes to the first output before its own. -/
def after (first : String) (outcome : Outcome) : Outcome :=
  { outcome with stdout := first ++ outcome.stdout }

end Outcome

/-- The text of some lines. -/
def unlines (lines : List String) : String := "".intercalate (lines.map (· ++ "\n"))

theorem intercalate_empty (texts : List String) : "".intercalate texts = String.join texts := by
  induction texts with
  | nil => rfl
  | cons text rest inductionHypothesis =>
    cases rest with
    | nil =>
      rw [String.intercalate_singleton, String.join_cons, String.join_nil, String.append_empty]
    | cons next later =>
      rw [String.intercalate_cons_cons, inductionHypothesis, String.append_empty]
      exact String.join_cons.symm

theorem unlines_eq_join (lines : List String) :
    unlines lines = String.join (lines.map (· ++ "\n")) :=
  intercalate_empty _

/-! ### Texts -/

/-- How to use the program. -/
def usage : String := unlines [
  "Usage: autopojo [-p DIR] generate [-m FILE] [-o DIR] [--dry-run] [--json]",
  "       autopojo [-p DIR] names [-m FILE]"]

/-- The lines that list what would be written below an output directory. -/
def listing (directory : String) (units : List CompilationUnit) : List String :=
  units.map fun unit => "would write " ++ Path.append directory unit.path

/-- The lines that sum up a round. -/
def summary (report : RoundReport) : List String :=
  report.emitted.map (fun name => "generated " ++ name.qualified) ++
    ["Emitted: " ++ toString report.emitted.length ++
      ", nested: " ++ toString report.filtered.length ++
      ", errors: " ++ toString report.errors.length]

/-- How the program ends after a round. -/
def conclude (json : Bool) (report : RoundReport) : Outcome where
  exitCode := if report.isSuccess then 0 else 1
  stdout := if json then report.toJson.pretty ++ "\n" else unlines (summary report)
  stderr :=
    (if json then "" else unlines (report.errors.map (·.line))) ++
      (if report.isSuccess then ""
      else "Error: generation failed with " ++ toString report.errors.length ++ " error(s)\n")

/-- The line that tells the generated name of a declaration. -/
def nameLine (declaration : Declaration) (name : Option GeneratedName) : String :=
  declaration.qualifiedName ++ " -> " ++
    match name with
    | some name => name.qualified
    | none => "(not generated)"

/-- The lines that tell the generated names of all interfaces. -/
def nameLines (repository : Repository) (suffix : String) : List String :=
  let interfaces := repository.declarations.filter (·.kind = .interface)
  let run := interfaces.mapM fun declaration => do
    let name ← (Resolver.remembering repository suffix).lenientName? declaration
    pure (nameLine declaration name)
  (run.run NameCache.empty).1

/-! ### Commands -/

variable {m : Type → Type} [Monad m]

/-- The path of the manifest of a project. -/
def manifestPath (root : String) : String :=
  Path.append (Config.settingsDirectory root) "manifest.json"

/-- The repository of a manifest file. -/
def loadRepository (files : FileAccess m) (path : String) :
    m (Except ManifestError Repository) := do
  match ← Manifest.load files path with
  | .error error => pure (.error error)
  | .ok manifest => pure manifest.repository

/-- Generates classes. -/
def generate (files : FileAccess m) (repository : Repository) (config : Config)
    (now directory : String) (dryRun json : Bool) : m Outcome :=
  if dryRun then
    let (report, units) := (Round.run repository config now Emitter.inMemory).run []
    pure ((conclude json report).after (unlines (listing directory units)))
  else do
    let report ← Round.run repository config now (Emitter.toFiles files directory)
    pure (conclude json report)

/-- Does what the arguments ask for. -/
def execute (files : FileAccess m) (environment : Environment) (now workingDirectory : String)
    (arguments : Arguments) : m Outcome := do
  let root := arguments.project.getD workingDirectory
  match ← Config.load files environment root with
  | .error _ => pure (.failure "failed to load config")
  | .ok config =>
    match ← loadRepository files (arguments.manifest.getD (manifestPath root)) with
    | .error error => pure (.failure error.message)
    | .ok repository =>
      match arguments.command with
      | .generate out dryRun json =>
        generate files repository config now (out.getD (config.outputPath root)) dryRun json
      | .names => pure (.success (unlines (nameLines repository config.suffix)))

/-- Runs the program. `now` is the time of generation. -/
def run (files : FileAccess m) (environment : Environment) (now workingDirectory : String)
    (arguments : List String) : m Outcome :=
  match Request.read arguments with
  | .error error => pure (.misuse error)
  | .ok .help => pure (.success usage)
  | .ok (.run arguments) => execute files environment now workingDirectory arguments

end ValueGen.CommandLine
