/-
This file reads the arguments of the command line: a command, and switches before and after it.
Each switch has a long name, some have a letter. A value follows its switch, with or without an
equals sign or, after a letter, right away; it is never empty, and where it stands alone it does
not look like a switch. A switch may be given once before the command and once after it, and what
comes after it counts.
-/

namespace ValueGen.CommandLine

/-! ### Switches -/

/-- A switch. -/
inductive Switch
  | project
  | manifest
  | out
  | dryRun
  | json
  | help
  deriving DecidableEq, Repr

namespace Switch

/-- The name after two dashes. -/
def longName : Switch → String
  | project => "project"
  | manifest => "manifest"
  | out => "out"
  | dryRun => "dry-run"
  | json => "json"
  | help => "help"

/-- The letter after one dash. -/
def letter? : Switch → Option Char
  | project => some 'p'
  | manifest => some 'm'
  | out => some 'o'
  | help => some 'h'
  | dryRun => none
  | json => none

/-- Whether the switch takes a value. -/
def takesValue : Switch → Bool
  | project => true
  | manifest => true
  | out => true
  | dryRun => false
  | json => false
  | help => false

/-- The switches that may stand before the command. -/
def ofProgram : List Switch := [project, help]

/-- The switches that may stand after the command that generates. -/
def ofGenerate : List Switch := [manifest, out, dryRun, json, project, help]

/-- The switches that may stand after the command that lists names. -/
def ofNames : List Switch := [manifest, project, help]

end Switch

/-- The reason why arguments cannot be read. -/
inductive UsageError
  | missingCommand
  | unknownCommand (text : String)
  | unknownSwitch (text : String)
  | unexpectedArgument (text : String)
  | missingValue (switch : Switch)
  | unexpectedValue (switch : Switch)
  | repeated (switch : Switch)
  deriving DecidableEq, Repr

/-- The wording of an error. -/
def UsageError.message : UsageError → String
  | missingCommand => "a command is missing"
  | unknownCommand text => "there is no command `" ++ text ++ "`"
  | unknownSwitch text => "there is no switch `" ++ text ++ "`"
  | unexpectedArgument text => "the argument `" ++ text ++ "` is not expected"
  | missingValue switch => "`--" ++ switch.longName ++ "` needs a value"
  | unexpectedValue switch => "`--" ++ switch.longName ++ "` takes no value"
  | repeated switch => "`--" ++ switch.longName ++ "` is given twice"

/-! ### Words -/

/-- An argument, taken apart. -/
inductive Word
  /-- A switch by its name, with the value after an equals sign. -/
  | long (name : String) (attached : Option String)
  /-- A switch by its letter, with the value right after it. -/
  | short (letter : Char) (attached : Option String)
  /-- Two dashes, after which nothing is a switch. -/
  | separator
  | plain (text : String)
  deriving DecidableEq, Repr

namespace Word

/-- Takes an argument apart. -/
def ofText (text : String) : Word :=
  match text.toList with
  | ['-', '-'] => separator
  | '-' :: '-' :: body =>
    let name := String.ofList (body.takeWhile (· ≠ '='))
    match body.dropWhile (· ≠ '=') with
    | [] => long name none
    | _ :: value => long name (some (String.ofList value))
  | ['-', letter] => short letter none
  | '-' :: letter :: '=' :: value => short letter (some (String.ofList value))
  | '-' :: letter :: value => short letter (some (String.ofList value))
  | _ => plain text

/-- Whether the word means the switch. -/
def names (switch : Switch) : Word → Bool
  | long name _ => switch.longName = name
  | short letter _ => switch.letter? = some letter
  | separator => false
  | plain _ => false

/-- The value that is attached to a switch. -/
def attached? : Word → Option String
  | long _ attached => attached
  | short _ attached => attached
  | separator => none
  | plain _ => none

/-- Whether the word has the form of a switch. -/
def isSwitch : Word → Bool
  | long _ _ => true
  | short _ _ => true
  | separator => false
  | plain _ => false

/-- Whether the word is a switch by its letter. What follows the letter of a switch that takes no
value is not its value. -/
def isShort : Word → Bool
  | short _ _ => true
  | _ => false

/-- Whether the word can be a value that stands alone. -/
def isValue : Word → Bool
  | plain text => text ≠ ""
  | _ => false

end Word

/-! ### Reading -/

/-- Switches, each with its value; the value of a switch that takes none is empty. -/
abbrev Given := List (Switch × String)

/-- What stands at the front of some arguments. -/
inductive Front
  /-- Help is asked for, and the rest does not matter. -/
  | help
  /-- Switches, and what follows them. -/
  | switches (given : Given) (rest : List String)
  deriving DecidableEq, Repr

/-- Reads the switches at the front of some arguments after those that are given already. -/
def readFront (known : List Switch) (given : Given) : List String → Except UsageError Front
  | [] => .ok (.switches given [])
  | argument :: rest =>
    let word := Word.ofText argument
    if !word.isSwitch then .ok (.switches given (argument :: rest))
    else
      match known.find? (word.names ·) with
      | none => .error (.unknownSwitch argument)
      | some switch =>
        if (given.lookup switch).isSome then .error (.repeated switch)
        else if switch.takesValue then
          match word.attached?, rest with
          | some value, rest =>
            if value = "" then .error (.missingValue switch)
            else readFront known ((switch, value) :: given) rest
          | none, value :: rest =>
            if (Word.ofText value).isValue then
              readFront known ((switch, value) :: given) rest
            else .error (.missingValue switch)
          | none, [] => .error (.missingValue switch)
        else if word.attached?.isSome && !word.isShort then .error (.unexpectedValue switch)
        else if switch = .help then .ok .help
        else readFront known ((switch, "") :: given) rest

/-- What the program is to do. -/
inductive Command
  /-- Generates classes into an output directory; or only lists what would be written. -/
  | generate (out : Option String) (dryRun json : Bool)
  /-- Lists the generated names. -/
  | names
  deriving DecidableEq, Repr

/-- The arguments of the program. -/
structure Arguments where
  /-- The root of the project. -/
  project : Option String
  /-- The path of the manifest. -/
  manifest : Option String
  command : Command
  deriving DecidableEq, Repr

/-- What a user asks for. -/
inductive Request
  | help
  | run (arguments : Arguments)
  deriving DecidableEq, Repr

/-- Reads the switches after a command, with which the arguments end. -/
def readCommand (known : List Switch) (outer : Given) (command : Given → Command)
    (arguments : List String) : Except UsageError Request := do
  match ← readFront known [] arguments with
  | .help => pure .help
  | .switches given rest =>
    match rest with
    | [] | ["--"] =>
      pure (.run {
        project := given.lookup .project <|> outer.lookup .project
        manifest := given.lookup .manifest
        command := command given })
    | argument :: _ => throw (.unexpectedArgument argument)

/-- The names of the commands. -/
def commandNames : List String := ["generate", "names", "help"]

/-- Reads the arguments of the program. -/
def Request.read (arguments : List String) : Except UsageError Request := do
  match ← readFront Switch.ofProgram [] arguments with
  | .help => pure .help
  | .switches _ [] => throw .missingCommand
  | .switches outer (name :: rest) =>
    if name = "generate" then
      readCommand Switch.ofGenerate outer (fun given =>
        .generate (given.lookup .out) (given.lookup .dryRun).isSome (given.lookup .json).isSome)
        rest
    else if name = "names" then readCommand Switch.ofNames outer (fun _ => .names) rest
    else if name = "help" then
      match rest with
      | [] => pure .help
      | [topic] => if commandNames.contains topic then pure .help else throw (.unknownCommand topic)
      | _ :: argument :: _ => throw (.unexpectedArgument argument)
    else throw (.unknownCommand name)

end ValueGen.CommandLine
