/-
This file holds the report of a generation round: the classes that were emitted, those that are
part of another class, and what failed. Each declaration that the round dealt with, marker groups
apart, stands in one of the three lists.
-/

import ValueGen.GeneratedName
import ValueGen.GenerationError
import ValueGen.Json.Basic

namespace ValueGen

/-- Why nothing came of a declaration. -/
structure ErrorReport where
  /-- The qualified name of the declaration. -/
  declaration : String
  error : GenerationError
  deriving DecidableEq, Repr

/-- The report as a line. -/
def ErrorReport.line (report : ErrorReport) : String :=
  "error: " ++ report.declaration ++ ": " ++ report.error.message

/-- The report of a round. -/
structure RoundReport where
  /-- The outermost classes that the emitter took. -/
  emitted : List GeneratedName
  /-- The classes that are nested in another one. -/
  filtered : List GeneratedName
  errors : List ErrorReport
  deriving DecidableEq, Repr

namespace RoundReport

/-- Whether nothing failed. -/
def isSuccess (report : RoundReport) : Bool := report.errors.isEmpty

/-- The number of declarations that the round dealt with. -/
def attempted (report : RoundReport) : Nat :=
  report.emitted.length + report.filtered.length + report.errors.length

end RoundReport

/-- Writes a name as JSON. -/
def GeneratedName.toJson (name : GeneratedName) : Json :=
  .record [("package", .string name.package), ("simple_names", .texts name.simpleNames)]

/-- Writes the report on a declaration as JSON. -/
def ErrorReport.toJson (report : ErrorReport) : Json :=
  .record [("declaration", .string report.declaration), ("severity", .string "error"),
    ("message", .string report.error.message)]

/-- Writes the report of a round as JSON. -/
def RoundReport.toJson (report : RoundReport) : Json :=
  .record [("emitted", .array (report.emitted.map (·.toJson))),
    ("filtered", .array (report.filtered.map (·.toJson))),
    ("errors", .array (report.errors.map (·.toJson)))]

end ValueGen
