import AgentTrial.Json.Decode
import AgentTrial.Report.Basic

/-!
# Codec — reports as value trees

Absent values are not written.
-/

namespace AgentTrial

namespace CapturedError

/-- The fields of an error. -/
def fields : Fields CapturedError :=
  mk <$> Fields.optional "case" Datum.asText <*> Fields.required "message" Datum.asText <*>
    Fields.optional "stack" Datum.asText

/-- The value tree of an error. -/
def toJson (e : CapturedError) : Json :=
  .record (Json.optional "case" (e.benchmark.map .text) ++ ("message", .text e.message) ::
    Json.optional "stack" (e.stack.map .text))

end CapturedError

namespace CapturedResponse

/-- The fields of an answer. -/
def fields : Fields CapturedResponse :=
  mk <$> Fields.required "case" Datum.asText <*> Fields.defaulted "prompt" Datum.asText "" <*>
    Fields.defaulted "system_prompt" Datum.asText "" <*> Fields.defaulted "response" Datum.asText "" <*>
    Fields.optional "feedback" Datum.asText

/-- The value tree of an answer. -/
def toJson (r : CapturedResponse) : Json :=
  .record ([("case", .text r.benchmark), ("prompt", .text r.prompt), ("system_prompt", .text r.systemPrompt),
    ("response", .text r.response)] ++ Json.optional "feedback" (r.feedback.map .text))

end CapturedResponse

namespace TaskOutcome

/-- The fields of an outcome. -/
def fields : Fields TaskOutcome :=
  mk <$> Fields.required "name" Datum.asText <*> Fields.required "state" (Datum.asVariant TaskState.names) <*>
    Fields.required "duration_ms" (Datum.asNat Json.maxNat64) <*>
    Fields.optional "error" CapturedError.fields.decode <*>
    Fields.optional "response" CapturedResponse.fields.decode

/-- The value tree of an outcome. -/
def toJson (o : TaskOutcome) : Json :=
  .record ([("name", .text o.name), ("state", .text o.state.name), ("duration_ms", .nat o.durationMs)] ++
    Json.optional "error" (o.error.map CapturedError.toJson) ++
    Json.optional "response" (o.response.map CapturedResponse.toJson))

end TaskOutcome

namespace ResultReport

/-- The fields of a report. -/
def fields : Fields (ResultReport Float) :=
  mk <$> Fields.required "success" Datum.asBool <*>
    Fields.required "outcomes" (Datum.asList TaskOutcome.fields.decode) <*>
    Fields.required "errors" (Datum.asList CapturedError.fields.decode) <*>
    Fields.required "responses" (Datum.asList CapturedResponse.fields.decode) <*>
    Fields.required "pass_rate" Datum.asFloat <*> Fields.required "skip_policy" SkipPolicy.decode <*>
    Fields.defaulted "fatal" Datum.asBool false <*> Fields.defaulted "program_digest" Datum.asText "" <*>
    Fields.defaulted "duration_ms" (Datum.asNat Json.maxNat64) 0

/-- The value tree of a report. -/
def toJson (r : ResultReport Float) : Json :=
  .record [("success", .bool r.success), ("outcomes", .list (r.outcomes.map TaskOutcome.toJson)),
    ("errors", .list (r.errors.map CapturedError.toJson)),
    ("responses", .list (r.responses.map CapturedResponse.toJson)), ("pass_rate", .float r.passRate),
    ("skip_policy", .text r.skipPolicy.name), ("fatal", .bool r.fatal), ("program_digest", .text r.programDigest),
    ("duration_ms", .nat r.durationMs)]

end ResultReport

end AgentTrial
