/-
This file is the program: it hands the files, the environment, the time and the arguments to the
command line, and passes on what comes of them.
-/

import Std.Time.DateTime.Timestamp
import ValueGen.CommandLine.Run
import ValueGen.UniversalTime

namespace ValueGen.Program

/-- What an error of the operating system means. -/
def fileError (error : IO.Error) : FileError :=
  match error with
  | .noFileOrDirectory _ _ _ => .notFound
  | .alreadyExists _ _ _ => .alreadyExists
  | .inappropriateType _ code _ => if code = 21 then .isADirectory else .notADirectory
  | .invalidArgument _ code details =>
    if code = 36 then .nameTooLong
    else .other (details ++ " (os error " ++ toString code ++ ")")
  | .permissionDenied _ code details =>
    .other (details ++ " (os error " ++ toString code ++ ")")
  | other => .other (toString other)

/-- The outcome of an access by a path. -/
def attempt {Value : Type} (path : String) (access : String → IO Value) :
    IO (Except FileError Value) := do
  match Disk.requireUsable path with
  | .error error => pure (.error error)
  | .ok () =>
    match ← (access path).toBaseIO with
    | .ok value => pure (.ok value)
    | .error error => pure (.error (fileError error))

/-- Whether a path leads to anything. -/
def holds (path : String) : IO Bool := do
  pure (← attempt path fun path => IO.FS.realPath path).isOk

/-- Makes a directory, or leaves it alone if it is there. -/
def ensureDirectory (path : String) : IO (Except FileError Unit) := do
  match ← attempt path fun path => IO.FS.createDir path with
  | .ok () => pure (.ok ())
  | .error error =>
    match ← attempt path fun path => IO.FS.realPath (Path.append path ".") with
    | .ok _ => pure (.ok ())
    | .error _ => pure (.error error)

/-- Makes a directory and the directories around it that are missing, given from the inside
out. -/
def ensureDirectories : List Path.Ancestor → IO (Except FileError Unit)
  | [] => pure (.ok ())
  | inner :: around => do
    match ← ensureDirectory inner.text with
    | .error .notFound =>
      match ← ensureDirectories around with
      | .error error => pure (.error error)
      | .ok () => ensureDirectory inner.text
    | outcome => pure outcome

/-- The accesses to the files of the operating system. -/
def files : FileAccess IO where
  holds := holds
  read path := attempt path fun path => IO.FS.readFile path
  ensureDirectories := ensureDirectories
  write path text := attempt path fun path => IO.FS.writeFile path text

/-- The variables of the environment. -/
def environment : IO Environment := do
  pure {
    suffix := ← IO.getEnv "AUTOPOJO_SUFFIX"
    outputDirectory := ← IO.getEnv "AUTOPOJO_OUT_DIR"
    generatorId := ← IO.getEnv "AUTOPOJO_GENERATOR_ID"
    threads := ← IO.getEnv "AUTOPOJO_THREADS" }

/-- The time. -/
def now : IO String := do
  let time ← Std.Time.Timestamp.now
  pure (UniversalTime.format time.toNanosecondsSinceUnixEpoch.toInt.toNat)

end ValueGen.Program

open ValueGen in
/-- Runs the program. -/
def main (arguments : List String) : IO UInt32 := do
  let outcome ← CommandLine.run Program.files (← Program.environment) (← Program.now)
    (toString (← IO.currentDir)) arguments
  IO.print outcome.stdout
  IO.eprint outcome.stderr
  pure (UInt32.ofNat outcome.exitCode)
