import AgentTrial.Document.Decode
import AgentTrial.Json.Decode

/-!
# Report — what a test host says about a run

One report for each unit, with the errors and the metadata that the unit left behind, and a verdict on the whole.
-/

namespace AgentTrial

/-- How a unit ended, in the words of a host. -/
inductive HostState
  | pass
  | fail
  | skip
  | unknown
  deriving Repr, DecidableEq

namespace HostState

/-- The word for a state. -/
def name : HostState → String
  | pass => "pass"
  | fail => "fail"
  | skip => "skip"
  | unknown => "unknown"

/-- The states by their words. -/
def names : List (String × HostState) := [pass, fail, skip, unknown].map fun s => (s.name, s)

/-- Decodes a state. -/
def decode : Datum → Except Cause HostState := Datum.asVariant names

end HostState

/-- An error of a unit. -/
structure HostError where
  message : String
  stack : Option String
  deriving Repr, DecidableEq

namespace HostError

/-- The fields of an error. -/
def fields : Fields HostError := mk <$> Fields.required "message" Datum.asText <*> Fields.optional "stack" Datum.asText

/-- The value tree of an error. -/
def toJson (e : HostError) : Json :=
  .record (("message", .text e.message) :: Json.optional "stack" (e.stack.map .text))

end HostError

/-- The report of a unit. -/
structure UnitReport where
  name : String
  state : HostState
  durationMs : Nat
  errors : List HostError
  /-- What the unit noted while it ran: the answer of the agent and the verdict. -/
  metadata : Option Json

namespace UnitReport

/-- The fields of a unit's report. -/
def fields : Fields UnitReport :=
  mk <$> Fields.required "name" Datum.asText <*> Fields.required "state" HostState.decode <*>
    Fields.required "duration_ms" (Datum.asNat Json.maxNat64) <*>
    Fields.defaulted "errors" (Datum.asList HostError.fields.decode) [] <*> Fields.optional "meta" Datum.asJson

/-- The value tree of a unit's report. -/
def toJson (u : UnitReport) : Json :=
  .record ([("name", .text u.name), ("state", .text u.state.name), ("duration_ms", .nat u.durationMs),
    ("errors", .list (u.errors.map HostError.toJson))] ++ Json.optional "meta" u.metadata)

end UnitReport

/-- The report of a run. -/
structure HostReport where
  success : Bool
  units : List UnitReport

namespace HostReport

/-- The fields of a report. -/
def fields : Fields HostReport :=
  mk <$> Fields.required "success" Datum.asBool <*>
    Fields.required "units" (Datum.asList UnitReport.fields.decode)

/-- The value tree of a report. -/
def toJson (r : HostReport) : Json :=
  .record [("success", .bool r.success), ("units", .list (r.units.map UnitReport.toJson))]

/-- A report of bare states: unit number i has the name `case i`. -/
def ofStates (states : List HostState) : HostReport :=
  ⟨true, states.mapIdx fun i s => ⟨"case " ++ toString i, s, 0, [], none⟩⟩

end HostReport

end AgentTrial
