import AgentTrial.Host.Basic
import AgentTrial.Text.Blank
import AgentTrial.Text.Search

/-!
# RunnerReport — the report that a test runner writes

A test runner writes one result for each file and in it one assertion for each case.  Attribution gives every unit
what the report says about its file; a unit without a result, or whose file could not be loaded, is unknown.

* `blocks_length`: attribution gives one block for each unit.
-/

namespace AgentTrial

/-- What a test runner says about a case. -/
structure Assertion where
  title : String
  status : String
  /-- The time that it took in milliseconds. -/
  duration : Option Float
  failures : List String
  metadata : Option Json

namespace Assertion

/-- The fields of an assertion. -/
def fields : Fields Assertion :=
  mk <$> Fields.required "title" Datum.asText <*> Fields.required "status" Datum.asText <*>
    Fields.optional "duration" Datum.asFloat <*>
    Fields.defaulted "failureMessages" (Datum.asList Datum.asText) [] <*> Fields.optional "meta" Datum.asJson

/-- The state that a status stands for. -/
def state (a : Assertion) : HostState :=
  if a.status = "passed" then .pass
  else if a.status = "failed" then .fail
  else if ["skipped", "pending", "todo", "disabled"].contains a.status then .skip
  else .unknown

/-- The duration in whole milliseconds; a half goes up, and nothing takes less than no time. -/
def durationMs (a : Assertion) : Nat := (a.duration.getD 0).round.toUInt64.toNat

end Assertion

/-- What a test runner says about a file. -/
structure FileResult where
  name : String
  /-- Why the file could not be loaded. -/
  message : String
  assertions : List Assertion

namespace FileResult

/-- The fields of a file's result. -/
def fields : Fields FileResult :=
  mk <$> Fields.required "name" Datum.asText <*> Fields.defaulted "message" Datum.asText "" <*>
    Fields.defaulted "assertionResults" (Datum.asList Assertion.fields.decode) []

/-- Is the result that of a file with this name? -/
def isOf (fileName : String) (r : FileResult) : Bool := Text.endsWith fileName.toList r.name.toList

end FileResult

/-- The report of a test runner. -/
structure RunnerReport where
  success : Bool
  results : List FileResult

namespace RunnerReport

/-- The fields of a report. -/
def fields : Fields RunnerReport :=
  mk <$> Fields.defaulted "success" Datum.asBool false <*>
    Fields.defaulted "testResults" (Datum.asList FileResult.fields.decode) []

/-- What stands between the message of a failure and its stack. -/
def stackMark : List Char := "\n    at ".toList

/-- The error of a failure: its message, and its stack if there is one. -/
def errorOf (failure : List Char) : HostError :=
  match Text.cut? stackMark failure with
  | some (message, stack) => ⟨.ofList message, some ("at " ++ .ofList stack)⟩
  | none => ⟨.ofList failure, none⟩

/-- The report of a unit of which nothing is known but an error. -/
def unknownUnit (name : String) (errors : List HostError) : UnitReport := ⟨name, .unknown, 0, errors, none⟩

/-- The report of a case. -/
def unitOf (a : Assertion) : UnitReport :=
  ⟨a.title, a.state, a.durationMs, a.failures.map fun f => errorOf f.toList, a.metadata⟩

/-- What a unit gets from the result of its file. -/
def block (unitName : String) : Option FileResult → List UnitReport
  | none => [unknownUnit unitName [⟨"unit missing from host report", none⟩]]
  | some r =>
    if r.assertions.isEmpty then
      let message := Text.trimChars r.message.toList
      [unknownUnit unitName (if message.isEmpty then [] else [errorOf message])]
    else r.assertions.map unitOf

/-- What each unit gets, in the order of the units.  A unit is known by the name of its file. -/
def blocks (r : RunnerReport) (units : List (String × String)) : List (List UnitReport) :=
  units.map fun (fileName, unitName) => block unitName (r.results.find? (·.isOf fileName))

theorem blocks_length (r : RunnerReport) (units : List (String × String)) :
    (r.blocks units).length = units.length := by
  simp [blocks]

/-- The report of a host for units with their files. -/
def toHostReport (r : RunnerReport) (units : List (String × String)) : HostReport :=
  ⟨r.success, (r.blocks units).flatten⟩

/-- Reads the report of a host from the text that a test runner wrote. -/
def readHostReport (text : String) (units : List (String × String)) : Except Fault HostReport :=
  match Json.ofText fields.decode text with
  | .error _ => .error (.submission "unreadable host report:")
  | .ok r => .ok (r.toHostReport units)

end RunnerReport

end AgentTrial
